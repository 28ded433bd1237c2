import Mathlib.Data.List.Basic
import Mathlib.Logic.Function.Basic
/-!
# Mailboxes — independent FIFOs that share one capacity

`Mailboxes κ α` is a FIFO for every key, and the number of elements that all of them hold.  An element is stored in the box
of its key as long as fewer than `cap` are held anywhere; a take empties a box from the front and touches no other.  Per key,
what was stored is what was taken followed by what is still there (`storedAll_eq`): nothing is lost, doubled or reordered.
-/

/-- A FIFO per key, and the count of all their elements. -/
structure Mailboxes (κ α : Type) where
  box : κ → List α
  held : Nat

namespace Mailboxes

variable {κ α : Type}

@[ext] theorem ext {m m' : Mailboxes κ α} (hbox : ∀ k, m.box k = m'.box k) (hheld : m.held = m'.held) : m = m' := by
  obtain ⟨box, held⟩ := m
  obtain ⟨box', held'⟩ := m'
  cases hheld
  cases (funext hbox : box = box')
  rfl

def empty : Mailboxes κ α where
  box _ := []
  held := 0

/-- An element arrives for a key, or the oldest one of a key is asked for. -/
inductive Op (κ α : Type) where
  | file (k : κ) (a : α)
  | take (k : κ)

variable [DecidableEq κ] (cap : Nat)

def file (m : Mailboxes κ α) (k : κ) (a : α) : Mailboxes κ α :=
  if m.held < cap then { box := Function.update m.box k (m.box k ++ [a]), held := m.held + 1 } else m

def take (m : Mailboxes κ α) (k : κ) : Mailboxes κ α :=
  match m.box k with
  | [] => m
  | _ :: rest => { box := Function.update m.box k rest, held := m.held - 1 }

def step (m : Mailboxes κ α) : Op κ α → Mailboxes κ α
  | .file k a => m.file cap k a
  | .take k => m.take k

/-- What the step adds to the box of a key. -/
def stored (m : Mailboxes κ α) (k : κ) : Op κ α → List α
  | .file k' a => if k' = k ∧ m.held < cap then [a] else []
  | .take _ => []

/-- What the step hands out of the box of a key. -/
def taken (m : Mailboxes κ α) (k : κ) : Op κ α → List α
  | .file _ _ => []
  | .take k' => if k' = k then (m.box k).head?.toList else []

def run (m : Mailboxes κ α) (ops : List (Op κ α)) : Mailboxes κ α := ops.foldl (step cap) m

/-- What a run adds to the box of a key, in order. -/
def storedAll (k : κ) : Mailboxes κ α → List (Op κ α) → List α
  | _, [] => []
  | m, op :: ops => m.stored cap k op ++ storedAll k (m.step cap op) ops

/-- What a run hands out of it. -/
def takenAll (k : κ) : Mailboxes κ α → List (Op κ α) → List α
  | _, [] => []
  | m, op :: ops => m.taken k op ++ takenAll k (m.step cap op) ops

variable {cap} {m : Mailboxes κ α} {k k' : κ}

theorem box_file_self (a : α) (h : m.held < cap) : (m.file cap k a).box k = m.box k ++ [a] := by
  rw [file, if_pos h]
  exact Function.update_self ..

theorem box_file_of_ne (a : α) (h : k ≠ k') : (m.file cap k' a).box k = m.box k := by
  unfold file
  split
  · exact Function.update_of_ne h ..
  · rfl

theorem held_file (a : α) (h : m.held < cap) : (m.file cap k a).held = m.held + 1 := by
  rw [file, if_pos h]

theorem file_of_full (a : α) (h : ¬ m.held < cap) : m.file cap k a = m := if_neg h

theorem take_of_nil (h : m.box k = []) : m.take k = m := by
  unfold take
  rw [h]

theorem box_take_self {a : α} {rest : List α} (h : m.box k = a :: rest) : (m.take k).box k = rest := by
  unfold take
  rw [h]
  exact Function.update_self ..

theorem held_take {a : α} {rest : List α} (h : m.box k = a :: rest) : (m.take k).held = m.held - 1 := by
  unfold take
  rw [h]

/-- **A take of one box leaves the others.** -/
theorem box_take_of_ne (h : k ≠ k') : (m.take k').box k = m.box k := by
  unfold take
  split
  · rfl
  · exact Function.update_of_ne h ..

/-- **One step conserves every box.** -/
theorem box_step (m : Mailboxes κ α) (k : κ) (op : Op κ α) :
    m.box k ++ m.stored cap k op = m.taken k op ++ (m.step cap op).box k := by
  cases op with
  | file k' a =>
    rw [stored, taken, step, List.nil_append]
    by_cases hk : k' = k
    · subst hk
      by_cases hroom : m.held < cap
      · rw [if_pos ⟨rfl, hroom⟩, box_file_self a hroom]
      · rw [if_neg (fun h => hroom h.2), file_of_full a hroom, List.append_nil]
    · rw [if_neg (fun h => hk h.1), box_file_of_ne a (Ne.symm hk), List.append_nil]
  | take k' =>
    rw [stored, taken, step, List.append_nil]
    by_cases hk : k' = k
    · subst hk
      rw [if_pos rfl]
      cases hbox : m.box k' with
      | nil => rw [take_of_nil hbox, hbox]; rfl
      | cons a rest => rw [box_take_self hbox]; rfl
    · rw [if_neg hk, box_take_of_ne (Ne.symm hk), List.nil_append]

theorem box_run (k : κ) : ∀ (ops : List (Op κ α)) (m : Mailboxes κ α),
    m.box k ++ storedAll cap k m ops = takenAll cap k m ops ++ (run cap m ops).box k
  | [], _ => List.append_nil _
  | op :: ops, m => by
    rw [storedAll, takenAll, ← List.append_assoc, box_step, List.append_assoc, box_run k ops (m.step cap op),
      List.append_assoc]
    rfl

/-- **From empty boxes, what was stored for a key is what was taken followed by what is there.** -/
theorem storedAll_eq (k : κ) (ops : List (Op κ α)) :
    storedAll cap k empty ops = takenAll cap k empty ops ++ (run cap empty ops).box k :=
  box_run k ops empty

end Mailboxes
