import Mathlib.Data.List.Basic
/-!
# RunLength — run-length coding of one symbol

A string over any alphabet falls into pieces: symbols other than the blank, each for itself, and runs of at most `cap + 1` blanks
(`pieces`).  A run is coded as a blank and the number of blanks that follow it, and any other symbol as itself.  The pieces of a
string make it up again (`flatMap_pieces`), and their codes read back as it (`decode_encode`).
-/
namespace RunLength

/-- A symbol, or a blank with `n` more. -/
inductive Piece (α : Type) where
  | literal (a : α)
  | run (n : Nat)

variable {α : Type} [DecidableEq α]

/-- The blanks that start a string, at most `k` of them, and what follows those. -/
def takeRun (blank : α) : Nat → List α → Nat × List α
  | 0, s => (0, s)
  | _ + 1, [] => (0, [])
  | k + 1, a :: s => if a = blank then ((takeRun blank k s).1 + 1, (takeRun blank k s).2) else (0, a :: s)

theorem takeRun_le (blank : α) : ∀ (k : Nat) (s : List α), (takeRun blank k s).1 ≤ k
  | 0, _ => Nat.le_refl 0
  | _ + 1, [] => Nat.zero_le _
  | k + 1, a :: s => by
    have ih := takeRun_le blank k s
    unfold takeRun
    split
    · exact Nat.succ_le_succ ih
    · exact Nat.zero_le _

theorem replicate_append_takeRun (blank : α) :
    ∀ (k : Nat) (s : List α), List.replicate (takeRun blank k s).1 blank ++ (takeRun blank k s).2 = s
  | 0, _ => rfl
  | _ + 1, [] => rfl
  | k + 1, a :: s => by
    have ih := replicate_append_takeRun blank k s
    unfold takeRun
    split
    · rename_i ha
      rw [List.replicate_succ, List.cons_append, ih, ha]
    · rfl

theorem length_takeRun_le (blank : α) (k : Nat) (s : List α) : (takeRun blank k s).2.length ≤ s.length := by
  have h := congrArg List.length (replicate_append_takeRun blank k s)
  rw [List.length_append] at h
  omega

/-- The pieces of a string, each run as long as it goes. -/
def pieces (blank : α) (cap : Nat) : List α → List (Piece α)
  | [] => []
  | a :: s =>
    if a = blank then .run (takeRun blank cap s).1 :: pieces blank cap (takeRun blank cap s).2
    else .literal a :: pieces blank cap s
termination_by s => s.length
decreasing_by
  · exact Nat.lt_succ_of_le (length_takeRun_le _ _ _)
  · exact Nat.lt_succ_self _

namespace Piece

/-- What the piece stands for. -/
def symbols (blank : α) : Piece α → List α
  | literal a => [a]
  | run n => List.replicate (n + 1) blank

/-- Literals are not the blank, and runs are not longer than the code can say. -/
def Ok (blank : α) (cap : Nat) : Piece α → Prop
  | literal a => a ≠ blank
  | run n => n ≤ cap

/-- The code of a piece, whose numbers are symbols too. -/
def encode (blank : α) (count : Nat → α) : Piece α → List α
  | literal a => [a]
  | run n => [blank, count n]

end Piece

open Piece

/-- **The pieces of a string make it up again.** -/
theorem flatMap_pieces (blank : α) (cap : Nat) (s : List α) : (pieces blank cap s).flatMap (symbols blank) = s := by
  fun_induction pieces blank cap s with
  | case1 => rw [List.flatMap_nil]
  | case2 s ih => rw [List.flatMap_cons, ih, symbols, List.replicate_succ, List.cons_append, replicate_append_takeRun]
  | case3 a s ha ih => rw [List.flatMap_cons, ih, symbols, List.singleton_append]

theorem ok_pieces (blank : α) (cap : Nat) (s : List α) : ∀ p ∈ pieces blank cap s, p.Ok blank cap := by
  fun_induction pieces blank cap s with
  | case1 => exact fun p hp => absurd hp List.not_mem_nil
  | case2 s ih => exact List.forall_mem_cons.2 ⟨takeRun_le blank cap s, ih⟩
  | case3 a s ha ih => exact List.forall_mem_cons.2 ⟨ha, ih⟩

/-- What a code stands for, `none` when it ends in a blank with no number. -/
def decode (blank : α) (value : α → Nat) : List α → Option (List α)
  | [] => some []
  | [a] => if a = blank then none else some [a]
  | a :: c :: s =>
    if a = blank then (decode blank value s).map (List.replicate (value c + 1) blank ++ ·)
    else (decode blank value (c :: s)).map (a :: ·)

theorem decode_literal {blank a : α} (ha : a ≠ blank) (value : α → Nat) (s : List α) :
    decode blank value (a :: s) = (decode blank value s).map (a :: ·) := by
  cases s with
  | nil => simp only [decode, if_neg ha, Option.map_some]
  | cons c s => rw [decode, if_neg ha]

theorem decode_run (blank c : α) (value : α → Nat) (s : List α) :
    decode blank value (blank :: c :: s) = (decode blank value s).map (List.replicate (value c + 1) blank ++ ·) := by
  rw [decode, if_pos rfl]

/-- **The codes of pieces read back as what the pieces stand for**, if numbers up to the longest run's do. -/
theorem decode_flatMap_encode {blank : α} {cap : Nat} {count : Nat → α} {value : α → Nat}
    (hcount : ∀ n ≤ cap, value (count n) = n) (ps : List (Piece α)) (hok : ∀ p ∈ ps, p.Ok blank cap) :
    decode blank value (ps.flatMap (encode blank count)) = some (ps.flatMap (symbols blank)) := by
  induction ps with
  | nil => rw [List.flatMap_nil, List.flatMap_nil, decode]
  | cons p ps ih =>
    have hp := hok p List.mem_cons_self
    have htail := ih (fun q hq => hok q (List.mem_cons_of_mem _ hq))
    rw [List.flatMap_cons, List.flatMap_cons]
    cases p with
    | literal a => rw [encode, List.singleton_append, decode_literal hp, htail, Option.map_some, symbols, List.singleton_append]
    | run n =>
      rw [encode, List.cons_append, List.singleton_append, decode_run, htail, Option.map_some, hcount n hp, symbols]

theorem decode_encode {cap : Nat} {count : Nat → α} {value : α → Nat} (hcount : ∀ n ≤ cap, value (count n) = n)
    (blank : α) (s : List α) :
    decode blank value ((pieces blank cap s).flatMap (encode blank count)) = some s := by
  rw [decode_flatMap_encode hcount _ (ok_pieces blank cap s), flatMap_pieces]

end RunLength
