import Mathlib.Data.List.Basic
/-!
# Runs — the runs of a step function

A system is a function `step` from a state and an operation to the next state.  `Reachable step ok start` are the states of
the runs from `start` whose steps all meet `ok`.  What the start has and every such step keeps, every reachable state has
(`Reachable.keeps`).  `Throughout step P` says that all states of a run have `P`.
-/
namespace Runs

variable {σ ο : Type} (step : σ → ο → σ) (ok : σ → ο → Prop)

def run (s : σ) (ops : List ο) : σ := ops.foldl step s

inductive Reachable (start : σ) : σ → Prop
  | init : Reachable start start
  | next {s : σ} (h : Reachable start s) (op : ο) (hok : ok s op) : Reachable start (step s op)

/-- Every step of the run meets `ok`. -/
def AllOk : σ → List ο → Prop
  | _, [] => True
  | s, op :: ops => ok s op ∧ AllOk (step s op) ops

instance decidableAllOk [hd : ∀ s op, Decidable (ok s op)] : ∀ (s : σ) (ops : List ο), Decidable (AllOk step ok s ops)
  | _, [] => isTrue trivial
  | s, op :: ops => @instDecidableAnd _ _ (hd s op) (decidableAllOk (step s op) ops)

/-- Every state of the run has `P`. -/
def Throughout (P : σ → Prop) : σ → List ο → Prop
  | s, [] => P s
  | s, op :: ops => P s ∧ Throughout P (step s op) ops

instance decidableThroughout {P : σ → Prop} [hd : DecidablePred P] :
    ∀ (s : σ) (ops : List ο), Decidable (Throughout step P s ops)
  | s, [] => hd s
  | s, op :: ops => @instDecidableAnd _ _ (hd s) (decidableThroughout (step s op) ops)

variable {step ok} {start : σ}

/-- **What a run keeps step by step holds at its end.** -/
theorem Reachable.keeps {P : σ → Prop} (hstart : P start) (hstep : ∀ s op, P s → ok s op → P (step s op)) {s : σ}
    (h : Reachable step ok start s) : P s := by
  induction h with
  | init => exact hstart
  | next _ op hok ih => exact hstep _ op ih hok

theorem Reachable.trans {s s' : σ} (h : Reachable step ok start s) (h' : Reachable step ok s s') :
    Reachable step ok start s' := by
  induction h' with
  | init => exact h
  | next _ op hok ih => exact ih.next op hok

theorem Reachable.single {s : σ} (op : ο) (h : ok s op) : Reachable step ok s (step s op) := .next .init op h

theorem reachable_run : ∀ (ops : List ο) {s : σ}, Reachable step ok start s → AllOk step ok s ops →
    Reachable step ok start (run step s ops)
  | [], _, h, _ => h
  | op :: ops, _, h, hok => reachable_run ops (h.next op hok.1) hok.2

theorem Throughout.run {P : σ → Prop} : ∀ {ops : List ο} {s : σ}, Throughout step P s ops → P (run step s ops)
  | [], _, h => h
  | _ :: _, _, h => h.2.run

/-- **Two conditions that agree on a run's steps, while the runs that meet them keep a property,** are met by the run or by
neither. -/
theorem allOk_congr {P : σ → Prop} {ok' : σ → ο → Prop} : ∀ {ops : List ο},
    (∀ op ∈ ops, ∀ s, P s → (ok s op ↔ ok' s op)) → (∀ op ∈ ops, ∀ s, P s → ok' s op → P (step s op)) →
    ∀ {s : σ}, P s → (AllOk step ok s ops ↔ AllOk step ok' s ops)
  | [], _, _, _, _ => Iff.rfl
  | op :: ops, h, hkeep, s, hs => by
    have hop : op ∈ op :: ops := List.mem_cons_self
    rw [AllOk, AllOk, h op hop s hs]
    refine and_congr_right fun hok => allOk_congr ?_ ?_ (hkeep op hop s hs hok)
    · exact fun o ho => h o (List.mem_cons_of_mem op ho)
    · exact fun o ho => hkeep o (List.mem_cons_of_mem op ho)

section Invariant

variable {P : σ → Prop} (hkeep : ∀ s op, P s → P (step s op))

include hkeep

theorem run_keeps : ∀ (ops : List ο) {s : σ}, P s → P (run step s ops)
  | [], _, h => h
  | op :: ops, _, h => run_keeps ops (hkeep _ op h)

theorem allOk_of_keeps (hok : ∀ s op, P s → ok s op) : ∀ (ops : List ο) {s : σ}, P s → AllOk step ok s ops
  | [], _, _ => trivial
  | op :: ops, _, h => ⟨hok _ op h, allOk_of_keeps hok ops (hkeep _ op h)⟩

/-- **What a step that fails the condition brings about, and nothing undoes, shows at the end which runs met it.** -/
theorem run_iff_not_allOk {Q : σ → Prop} (hQ : ∀ s op, P s → (Q (step s op) ↔ Q s ∨ ¬ ok s op)) :
    ∀ (ops : List ο) {s : σ}, P s → (Q (run step s ops) ↔ Q s ∨ ¬ AllOk step ok s ops)
  | [], _, _ => by simp [run, AllOk]
  | op :: ops, s, h => by
    have ih := run_iff_not_allOk hQ ops (hkeep s op h)
    rw [AllOk, not_and_or, ← or_assoc, ← hQ s op h]
    exact ih

/-- **A property that exactly the good steps keep holds throughout exactly the runs of good steps.** -/
theorem throughout_iff_allOk {Q : σ → Prop} (h : ∀ s op, P s → Q s → (Q (step s op) ↔ ok s op)) :
    ∀ (ops : List ο) {s : σ}, P s → Q s → (Throughout step Q s ops ↔ AllOk step ok s ops)
  | [], _, _, hs => ⟨fun _ => trivial, fun _ => hs⟩
  | op :: ops, s, hinv, hs => by
    have hinv' := hkeep s op hinv
    constructor
    · rintro ⟨-, hrest⟩
      have hnext : Q (step s op) := by
        cases ops with
        | nil => exact hrest
        | cons _ _ => exact hrest.1
      exact ⟨(h s op hinv hs).1 hnext, (throughout_iff_allOk h ops hinv' hnext).1 hrest⟩
    · rintro ⟨hok, hrest⟩
      exact ⟨hs, (throughout_iff_allOk h ops hinv' ((h s op hinv hs).2 hok)).2 hrest⟩

theorem throughout_congr {Q R : σ → Prop} (h : ∀ s, P s → (Q s ↔ R s)) :
    ∀ (ops : List ο) {s : σ}, P s → (Throughout step Q s ops ↔ Throughout step R s ops)
  | [], _, hinv => h _ hinv
  | op :: ops, _, hinv => and_congr (h _ hinv) (throughout_congr h ops (hkeep _ op hinv))

end Invariant

end Runs
