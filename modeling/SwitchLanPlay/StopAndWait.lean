import Mathlib.Algebra.GroupWithZero.Nat
import Mathlib.Data.List.Induction
import SwitchLanPlay.Traces
/-!
# StopAndWait — a stream sent a piece at a time over a lossy channel

The sender gives every piece the offset that was acknowledged last, and sends it as often as it likes; the receiver takes a
piece at the offset it expects, and no other.  Copies may be lost, repeated and delayed, and so may acknowledgements.

What is taken is what was sent, in order and at most once (`Inv.sublist`), even where a piece was given up and another one
sent at its offset.  Where every piece is acknowledged before the next one begins, what is taken is all that was sent but for
the last piece (`delivered_cases`).
-/
namespace StopAndWait

open Traces

variable {α : Type}

/-- The elements of the pieces. -/
def size (pieces : List (Nat × List α)) : Nat := (pieces.map (fun x => x.2.length)).sum

/-- Every piece is at the offset where those before it end. -/
def Contiguous (pieces : List (Nat × List α)) : Prop := Justified (fun before x => x.1 = size before) pieces

/-- The pieces that the sender began, with their offsets; the offset that was acknowledged last; and what the receiver took. -/
structure Channel (α : Type) where
  attempts : List (Nat × List α) := []
  acked : Nat := 0
  delivered : List (Nat × List α) := []

namespace Channel

def expected (c : Channel α) : Nat := size c.delivered

def begin (c : Channel α) (piece : List α) : Channel α := { c with attempts := c.attempts ++ [(c.acked, piece)] }

/-- A copy arrives. -/
def arrive (c : Channel α) (x : Nat × List α) : Channel α :=
  if x.1 = c.expected then { c with delivered := c.delivered ++ [x] } else c

/-- An acknowledgement arrives. -/
def acknowledge (c : Channel α) (n : Nat) : Channel α := { c with acked := max c.acked n }

/-- An offset that the receiver expected at some time. -/
def Mark (c : Channel α) (n : Nat) : Prop := ∃ taken, taken <+: c.delivered ∧ n = size taken

structure Inv (c : Channel α) : Prop where
  nonempty : ∀ x ∈ c.attempts, x.2 ≠ []
  sorted : c.attempts.Pairwise (fun x y => x.1 ≤ y.1)
  attempts_le : ∀ x ∈ c.attempts, x.1 ≤ c.acked
  acked_mark : c.Mark c.acked
  contiguous : Contiguous c.delivered
  sublist : List.Sublist c.delivered c.attempts

end Channel

/-! ## Sizes -/

@[simp] theorem size_nil : size ([] : List (Nat × List α)) = 0 := rfl

@[simp] theorem size_append (xs ys : List (Nat × List α)) : size (xs ++ ys) = size xs + size ys := by
  simp [size]

@[simp] theorem size_singleton (x : Nat × List α) : size [x] = x.2.length := by
  simp [size]

theorem size_le_of_prefix {xs ys : List (Nat × List α)} (h : xs <+: ys) : size xs ≤ size ys := by
  obtain ⟨rest, rfl⟩ := h
  simp

theorem size_le_of_sublist {xs ys : List (Nat × List α)} (h : List.Sublist xs ys) : size xs ≤ size ys := by
  induction h with
  | slnil => exact Nat.le_refl _
  | cons y _ ih => exact Nat.le_trans ih (Nat.le_add_left _ _)
  | cons_cons y _ ih => exact Nat.add_le_add_left ih _

theorem eq_nil_of_size {xs : List (Nat × List α)} (hne : ∀ x ∈ xs, x.2 ≠ []) (h : size xs = 0) : xs = [] := by
  cases xs with
  | nil => rfl
  | cons x rest =>
    have hx := List.length_pos_iff.2 (hne x List.mem_cons_self)
    simp only [size, List.map_cons, List.sum_cons] at h
    omega

/-- **Prefixes of one list of the same size are the same.** -/
theorem prefix_eq_of_size {xs ys all : List (Nat × List α)} (hne : ∀ x ∈ all, x.2 ≠ []) (hx : xs <+: all) (hy : ys <+: all)
    (h : size xs = size ys) : xs = ys := by
  rcases List.prefix_or_prefix_of_prefix hx hy with ⟨rest, rfl⟩ | ⟨rest, rfl⟩
  · have hrest : rest = [] := by
      refine eq_nil_of_size (fun x hmem => hne x (hy.subset (List.mem_append_right _ hmem))) ?_
      rw [size_append] at h
      omega
    rw [hrest, List.append_nil]
  · have hrest : rest = [] := by
      refine eq_nil_of_size (fun x hmem => hne x (hx.subset (List.mem_append_right _ hmem))) ?_
      rw [size_append] at h
      omega
    rw [hrest, List.append_nil]

/-! ## The order of what is taken -/

/-- Every piece of a contiguous list lies before its end. -/
theorem Contiguous.lt_size {xs : List (Nat × List α)} (h : Contiguous xs) (hne : ∀ x ∈ xs, x.2 ≠ []) {x : Nat × List α}
    (hx : x ∈ xs) : x.1 < size xs := by
  obtain ⟨before, after, rfl⟩ := List.append_of_mem hx
  have hoff := h before x after rfl
  have hpos := List.length_pos_iff.2 (hne x hx)
  rw [← List.singleton_append, size_append, size_append, size_singleton]
  omega

/-- **In a list sorted by offset, what lies below a piece stands before it.** -/
theorem sublist_concat_of_lt {xs ys : List (Nat × List α)} {x : Nat × List α} (hsorted : ys.Pairwise (fun a b => a.1 ≤ b.1))
    (hsub : List.Sublist xs ys) (hx : x ∈ ys) (hlt : ∀ y ∈ xs, y.1 < x.1) : List.Sublist (xs ++ [x]) ys := by
  obtain ⟨before, after, rfl⟩ := List.append_of_mem hx
  obtain ⟨front, back, rfl, hfront, hback⟩ := List.sublist_append_iff.1 hsub
  have hnil : back = [] := by
    apply List.eq_nil_iff_forall_not_mem.2
    intro y hy
    have hylt := hlt y (List.mem_append_right _ hy)
    have hge : x.1 ≤ y.1 := by
      rcases List.mem_cons.1 (hback.subset hy) with rfl | hmem
      · exact Nat.le_refl _
      · exact List.rel_of_pairwise_cons (List.pairwise_append.1 hsorted).2.1 hmem
    omega
  subst hnil
  rw [List.append_nil]
  exact hfront.append (List.singleton_sublist.2 List.mem_cons_self)

/-- **A contiguous part of a contiguous list is how it begins.** -/
theorem prefix_of_contiguous {xs ys : List (Nat × List α)} (hne : ∀ y ∈ ys, y.2 ≠ []) (hy : Contiguous ys) (hx : Contiguous xs)
    (hsub : List.Sublist xs ys) : xs <+: ys := by
  induction xs using List.reverseRecOn with
  | nil => exact List.nil_prefix
  | append_singleton xs x ih =>
    obtain ⟨hx', hoff⟩ := justified_append_singleton.1 hx
    have hpre := ih hx' ((List.sublist_append_left _ _).trans hsub)
    obtain ⟨before, after, rfl⟩ := List.append_of_mem (hsub.subset (List.mem_append_right _ List.mem_cons_self))
    have hbefore := hy before x after rfl
    have heq : xs = before := prefix_eq_of_size hne hpre (List.prefix_append _ _) (hoff.symm.trans hbefore)
    subst heq
    exact ⟨after, by simp⟩

namespace Channel

variable {c : Channel α}

theorem Mark.le_expected {n : Nat} (h : c.Mark n) : n ≤ c.expected := by
  obtain ⟨taken, hpre, rfl⟩ := h
  exact size_le_of_prefix hpre

theorem mark_expected (c : Channel α) : c.Mark c.expected := ⟨_, List.prefix_refl _, rfl⟩

theorem mark_zero (c : Channel α) : c.Mark 0 := ⟨[], List.nil_prefix, rfl⟩

/-! ## The steps -/

theorem inv_new : ({} : Channel α).Inv where
  nonempty := by simp
  sorted := .nil
  attempts_le := by simp
  acked_mark := mark_zero _
  contiguous := justified_nil
  sublist := .slnil

theorem Inv.expected_le (h : c.Inv) : c.expected ≤ size c.attempts := size_le_of_sublist h.sublist

theorem Inv.acked_le (h : c.Inv) : c.acked ≤ c.expected := h.acked_mark.le_expected

theorem Inv.begin (h : c.Inv) {piece : List α} (hne : piece ≠ []) : (c.begin piece).Inv where
  nonempty := by
    intro x hx
    rcases List.mem_append.1 hx with hx | hx
    · exact h.nonempty x hx
    · rw [List.mem_singleton.1 hx]
      exact hne
  sorted := by
    refine List.pairwise_append.2 ⟨h.sorted, List.pairwise_singleton _ _, fun x hx y hy => ?_⟩
    rw [List.mem_singleton.1 hy]
    exact h.attempts_le x hx
  attempts_le := by
    intro x hx
    rcases List.mem_append.1 hx with hx | hx
    · exact h.attempts_le x hx
    · rw [List.mem_singleton.1 hx]
      exact Nat.le_refl c.acked
  acked_mark := h.acked_mark
  contiguous := h.contiguous
  sublist := h.sublist.trans (List.sublist_append_left _ _)

theorem Mark.arrive {n : Nat} (h : c.Mark n) (x : Nat × List α) : (c.arrive x).Mark n := by
  obtain ⟨taken, hpre, rfl⟩ := h
  refine ⟨taken, ?_, rfl⟩
  unfold Channel.arrive
  split
  · exact hpre.trans (List.prefix_append _ _)
  · exact hpre

theorem attempts_arrive (c : Channel α) (x : Nat × List α) : (c.arrive x).attempts = c.attempts := by
  unfold arrive
  split <;> rfl

theorem acked_arrive (c : Channel α) (x : Nat × List α) : (c.arrive x).acked = c.acked := by
  unfold arrive
  split <;> rfl

/-- **A copy that is taken comes after all that was taken before.** -/
theorem Inv.arrive (h : c.Inv) {x : Nat × List α} (hx : x ∈ c.attempts) : (c.arrive x).Inv where
  nonempty := by
    rw [attempts_arrive]
    exact h.nonempty
  sorted := by
    rw [attempts_arrive]
    exact h.sorted
  attempts_le := by
    rw [attempts_arrive, acked_arrive]
    exact h.attempts_le
  acked_mark := by
    rw [acked_arrive]
    exact h.acked_mark.arrive x
  contiguous := by
    unfold Channel.arrive
    split
    · rename_i heq
      exact justified_append_singleton.2 ⟨h.contiguous, heq⟩
    · exact h.contiguous
  sublist := by
    rw [attempts_arrive]
    unfold Channel.arrive
    split
    · rename_i heq
      refine sublist_concat_of_lt h.sorted h.sublist hx fun y hy => ?_
      have hlt := h.contiguous.lt_size (fun z hz => h.nonempty z (h.sublist.subset hz)) hy
      rw [heq]
      exact hlt
    · exact h.sublist

theorem Inv.acknowledge (h : c.Inv) {n : Nat} (hn : c.Mark n) : (c.acknowledge n).Inv where
  nonempty := h.nonempty
  sorted := h.sorted
  attempts_le := fun x hx => Nat.le_trans (h.attempts_le x hx) (Nat.le_max_left _ _)
  acked_mark := by
    rcases Nat.le_total c.acked n with hle | hle
    · obtain ⟨taken, hpre, hsize⟩ := hn
      exact ⟨taken, hpre, (Nat.max_eq_right hle).trans hsize⟩
    · obtain ⟨taken, hpre, hsize⟩ := h.acked_mark
      exact ⟨taken, hpre, (Nat.max_eq_left hle).trans hsize⟩
  contiguous := h.contiguous
  sublist := h.sublist

/-! ## One piece after the other -/

section InTurn

variable (h : c.Inv) (hturn : Contiguous c.attempts)

include h hturn

theorem delivered_isPrefix : c.delivered <+: c.attempts := prefix_of_contiguous h.nonempty hturn h.contiguous h.sublist

/-- **All is acknowledged, or all but the last piece.** -/
theorem acked_cases {done : List (Nat × List α)} {last : Nat × List α} (hlast : c.attempts = done ++ [last]) :
    c.acked = size done ∨ c.acked = size c.attempts := by
  obtain ⟨taken, hpre, hsize⟩ := h.acked_mark
  have hall := hpre.trans (delivered_isPrefix h hturn)
  have hoff : last.1 = size done := hturn done last [] hlast
  have hle : last.1 ≤ c.acked := h.attempts_le last (hlast ▸ List.mem_append_right _ List.mem_cons_self)
  rw [hlast] at hall
  rcases List.prefix_concat_iff.1 hall with heq | hdone
  · right
    rw [hsize, heq, hlast]
  · left
    have hge := size_le_of_prefix hdone
    omega

/-- **What is acknowledged was taken.** -/
theorem delivered_of_acked (hall : c.acked = size c.attempts) : c.delivered = c.attempts := by
  obtain ⟨taken, hpre, hsize⟩ := h.acked_mark
  have hdel := delivered_isPrefix h hturn
  have heq : taken = c.attempts :=
    prefix_eq_of_size h.nonempty (hpre.trans hdel) (List.prefix_refl _) (hsize.symm.trans hall)
  subst heq
  exact hdel.eq_of_length_le hpre.length_le

/-- **All pieces were taken, or all but the last.** -/
theorem delivered_cases {done : List (Nat × List α)} {last : Nat × List α} (hlast : c.attempts = done ++ [last]) :
    c.delivered = done ∨ c.delivered = done ++ [last] := by
  have hdel := delivered_isPrefix h hturn
  rw [hlast] at hdel
  rcases List.prefix_concat_iff.1 hdel with heq | hdone
  · exact .inr heq
  · left
    obtain ⟨taken, hpre, hsize⟩ := h.acked_mark
    have hle : last.1 ≤ c.acked := h.attempts_le last (hlast ▸ List.mem_append_right _ List.mem_cons_self)
    have hoff : last.1 = size done := hturn done last [] hlast
    have htaken := size_le_of_prefix hpre
    have hge := size_le_of_prefix hdone
    have hne : ∀ x ∈ done, x.2 ≠ [] := fun x hx => h.nonempty x (hlast ▸ List.mem_append_left _ hx)
    exact prefix_eq_of_size hne hdone (List.prefix_refl _) (by omega)

end InTurn

theorem contiguous_begin (hturn : Contiguous c.attempts) (hall : c.acked = size c.attempts) (piece : List α) :
    Contiguous (c.begin piece).attempts :=
  justified_append_singleton.2 ⟨hturn, hall⟩

end Channel

end StopAndWait
