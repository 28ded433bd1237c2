import Mathlib.Data.List.Basic
/-!
# Handoff — elements that workers take from a queue and file one by one

A worker takes the oldest element under one lock and files it under another; in between the element is the worker's alone.
A `Handoff` is what is queued, what is held, in the order it was taken, and what has been filed.  The elements of one flow
are filed as they arrived while each is filed in its turn, that is, with none of its flow taken earlier and still held
(`inOrder_file`).
-/

structure Handoff (ι α : Type) where
  queued : List α
  held : List (ι × α)
  filed : List α

namespace Handoff

variable {ι α κ : Type}

def push (h : Handoff ι α) (a : α) : Handoff ι α := { h with queued := h.queued ++ [a] }

/-- Elements leave the queue untaken. -/
def lose (h : Handoff ι α) (queued : List α) : Handoff ι α := { h with queued := queued }

/-- The worker takes the oldest element. -/
def take (h : Handoff ι α) (i : ι) : Handoff ι α :=
  match h.queued with
  | [] => h
  | a :: rest => { h with queued := rest, held := h.held ++ [(i, a)] }

/-- Everything that is not lost, the elements filed first. -/
def all (h : Handoff ι α) : List α := h.filed ++ h.held.map Prod.snd ++ h.queued

theorem all_push (h : Handoff ι α) (a : α) : (h.push a).all = h.all ++ [a] := by simp [push, all]

theorem all_take (h : Handoff ι α) (i : ι) : (h.take i).all = h.all := by
  unfold take
  split
  · rfl
  · rename_i a rest hq
    simp [all, hq]

/-! ## Flows -/

section Flows

variable [DecidableEq κ] (flow : α → Option κ)

/-- The elements of a flow. -/
def ofFlow (k : κ) (l : List α) : List α := l.filter (fun a => flow a == some k)

/-- Each flow is in the order of the arrivals. -/
def InOrder (h : Handoff ι α) (arrived : List α) : Prop := ∀ k, (ofFlow flow k h.all).Sublist arrived

variable {flow} {h : Handoff ι α} {arrived : List α}

theorem ofFlow_append (k : κ) (l l' : List α) : ofFlow flow k (l ++ l') = ofFlow flow k l ++ ofFlow flow k l' :=
  List.filter_append ..

theorem ofFlow_cons_of_eq {k : κ} {a : α} (ha : flow a = some k) (l : List α) :
    ofFlow flow k (a :: l) = a :: ofFlow flow k l := List.filter_cons_of_pos (by rw [ha]; exact beq_self_eq_true _)

theorem ofFlow_cons_of_ne {k : κ} {a : α} (ha : flow a ≠ some k) (l : List α) :
    ofFlow flow k (a :: l) = ofFlow flow k l := List.filter_cons_of_neg (by simpa using ha)

theorem inOrder_push (ho : h.InOrder flow arrived) (a : α) : (h.push a).InOrder flow (arrived ++ [a]) := by
  intro k
  rw [all_push, ofFlow_append]
  apply List.Sublist.append (ho k)
  exact List.filter_sublist

theorem inOrder_lose (ho : h.InOrder flow arrived) {queued : List α} (hq : queued.Sublist h.queued) :
    (h.lose queued).InOrder flow arrived := by
  intro k
  have hall : (h.lose queued).all.Sublist h.all := List.Sublist.append (List.Sublist.refl _) hq
  exact (hall.filter _).trans (ho k)

theorem inOrder_take (ho : h.InOrder flow arrived) (i : ι) : (h.take i).InOrder flow arrived := by
  intro k
  rw [all_take]
  exact ho k

/-- **What has been filed of a flow is in the order of its arrivals.** -/
theorem filed_inOrder (ho : h.InOrder flow arrived) (k : κ) : (ofFlow flow k h.filed).Sublist (ofFlow flow k arrived) := by
  have hle : h.filed.Sublist h.all := by
    rw [all, List.append_assoc]
    exact List.sublist_append_left _ _
  have htwice : ofFlow flow k (ofFlow flow k h.filed) = ofFlow flow k h.filed := by
    simp only [ofFlow, List.filter_filter, Bool.and_self]
  rw [← htwice]
  exact ((hle.filter _).trans (ho k)).filter _

end Flows

/-! ## Filing -/

section Filing

variable [DecidableEq ι]

/-- The element the worker holds. -/
def holding (h : Handoff ι α) (i : ι) : Option α := (h.held.find? (fun e => e.1 == i)).map Prod.snd

/-- The elements that were taken before it and are still held. -/
def ahead (h : Handoff ι α) (i : ι) : List α := (h.held.takeWhile (fun e => e.1 != i)).map Prod.snd

/-- The worker files the element it holds. -/
def file (h : Handoff ι α) (i : ι) : Handoff ι α :=
  match h.holding i with
  | none => h
  | some a => { h with held := h.held.eraseP (fun e => e.1 == i), filed := h.filed ++ [a] }

/-- Nothing of the flow of the worker's element is ahead of it. -/
def InTurn (flow : α → Option κ) (h : Handoff ι α) (i : ι) : Prop :=
  ∀ a ∈ h.holding i, ∀ b ∈ h.ahead i, flow b = flow a → flow a = none

instance [DecidableEq κ] (flow : α → Option κ) (h : Handoff ι α) (i : ι) : Decidable (h.InTurn flow i) := by
  unfold InTurn
  infer_instance

variable {flow : α → Option κ} {h : Handoff ι α} {arrived : List α} {i : ι}

/-- The held elements around the one the worker holds. -/
theorem held_of_holding {a : α} (ha : h.holding i = some a) : ∃ before after,
    h.held.map Prod.snd = before ++ a :: after ∧ h.ahead i = before ∧
    (h.held.eraseP (fun e => e.1 == i)).map Prod.snd = before ++ after := by
  obtain ⟨e, he, rfl⟩ := Option.map_eq_some_iff.1 ha
  obtain ⟨hp, l, r, hl, hbefore⟩ := List.find?_eq_some_iff_append.1 he
  refine ⟨l.map Prod.snd, r.map Prod.snd, ?_, ?_, ?_⟩
  · rw [hl, List.map_append, List.map_cons]
  · have hall : ∀ x ∈ l, (fun e : ι × α => e.1 != i) x = true := fun x hx => hbefore x hx
    rw [ahead, hl, List.takeWhile_append_of_pos hall, List.takeWhile_cons_of_neg (by simpa using hp), List.append_nil]
  · have hnone : ∀ x ∈ l, ¬ (fun e : ι × α => e.1 == i) x = true := fun x hx => by simpa using hbefore x hx
    rw [hl, List.eraseP_append_right _ hnone, List.eraseP_cons_of_pos (p := fun e : ι × α => e.1 == i) hp,
      List.map_append]

/-- **Filing in turn keeps every flow in the order of the arrivals.** -/
theorem inOrder_file [DecidableEq κ] (ho : h.InOrder flow arrived) (ht : h.InTurn flow i) :
    (h.file i).InOrder flow arrived := by
  intro k
  cases ha : h.holding i with
  | none =>
    rw [file, ha]
    exact ho k
  | some a =>
    obtain ⟨before, after, hheld, hahead, herase⟩ := held_of_holding ha
    have hsame : ofFlow flow k (a :: (before ++ after)) = ofFlow flow k (before ++ a :: after) := by
      by_cases hk : flow a = some k
      · -- nothing of the flow is passed over
        have hnone : ofFlow flow k before = [] := by
          refine List.filter_eq_nil_iff.2 (fun b hb hbk => ?_)
          have hab : flow b = flow a := by
            rw [hk]
            exact beq_iff_eq.1 hbk
          rw [ht a ha b (by rw [hahead]; exact hb) hab] at hk
          cases hk
        rw [ofFlow_cons_of_eq hk, ofFlow_append, ofFlow_append, ofFlow_cons_of_eq hk, hnone, List.nil_append,
          List.nil_append]
      · rw [ofFlow_cons_of_ne hk, ofFlow_append, ofFlow_append, ofFlow_cons_of_ne hk]
    have hnew : (h.file i).all = h.filed ++ (a :: (before ++ after) ++ h.queued) := by simp [file, ha, all, herase]
    have hold : h.all = h.filed ++ (before ++ a :: after ++ h.queued) := by simp [all, hheld]
    rw [hnew, ofFlow_append, ofFlow_append, hsame, ← ofFlow_append, ← ofFlow_append, ← hold]
    exact ho k

end Filing

end Handoff
