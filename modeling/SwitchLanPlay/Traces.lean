import Mathlib.Data.List.Basic
/-!
# Traces — events that earlier events justify

A run leaves a list of events, oldest first.  `Justified just trace` says that every event of it has `just` of what came
before it, so nothing is the effect of something later.  An event is checked when it is appended (`justified_append_singleton`).
-/
namespace Traces

variable {ε : Type} {just : List ε → ε → Prop} {trace : List ε}

def Justified (just : List ε → ε → Prop) (trace : List ε) : Prop :=
  ∀ before e after, trace = before ++ e :: after → just before e

theorem justified_nil : Justified just [] := fun before e after h => by
  have := congrArg List.length h
  simp at this

theorem justified_append_singleton {e : ε} : Justified just (trace ++ [e]) ↔ Justified just trace ∧ just trace e := by
  constructor
  · intro h
    exact ⟨fun before b after hb => h before b (after ++ [e]) (by simp [hb]), h trace e [] rfl⟩
  · rintro ⟨hold, hnew⟩ before b after hb
    rcases List.eq_nil_or_concat after with rfl | ⟨rest, c, rfl⟩
    · obtain ⟨rfl, hbe⟩ := List.append_inj' hb rfl
      rw [← List.singleton_inj.1 hbe]
      exact hnew
    · rw [List.concat_eq_append, ← List.cons_append, ← List.append_assoc] at hb
      exact hold before b rest (List.append_inj' hb rfl).1

/-- Events that need nothing before them justify themselves. -/
theorem justified_append_free : ∀ (es : List ε) {trace : List ε}, Justified just trace → (∀ e ∈ es, ∀ before, just before e) →
    Justified just (trace ++ es)
  | [], _, h, _ => by rwa [List.append_nil]
  | e :: es, trace, h, hfree => by
    have hnext := justified_append_singleton.2 ⟨h, hfree e List.mem_cons_self trace⟩
    have hall := justified_append_free es hnext (fun b hb => hfree b (List.mem_cons_of_mem _ hb))
    rwa [List.append_assoc] at hall

/-! ## What is remembered of a trace -/

section Memory

variable {σ : Type} {after : σ → ε → σ} {due : σ → ε → Prop} {start : σ}

/-- Each event is due by what is remembered when it comes. -/
def Accepted (after : σ → ε → σ) (due : σ → ε → Prop) : σ → List ε → Prop
  | _, [] => True
  | s, e :: es => due s e ∧ Accepted after due (after s e) es

theorem accepted_append : ∀ (es es' : List ε) {s : σ},
    Accepted after due s (es ++ es') ↔ Accepted after due s es ∧ Accepted after due (es.foldl after s) es'
  | [], _, _ => (true_and _).to_iff.symm
  | e :: es, es', s => by
    rw [List.cons_append, Accepted, accepted_append es es', Accepted, and_assoc]
    rfl

/-- **Events are justified by what is remembered of those before** when they are accepted one after the other. -/
theorem justified_append_accepted : ∀ (es : List ε) {trace : List ε},
    Justified (fun before e => due (before.foldl after start) e) trace → Accepted after due (trace.foldl after start) es →
    Justified (fun before e => due (before.foldl after start) e) (trace ++ es)
  | [], _, h, _ => by rwa [List.append_nil]
  | e :: es, trace, h, hes => by
    have hnext := justified_append_singleton.2 ⟨h, hes.1⟩
    have hrest : Accepted after due ((trace ++ [e]).foldl after start) es := by
      rw [List.foldl_append]
      exact hes.2
    have hall := justified_append_accepted es hnext hrest
    rwa [List.append_assoc] at hall

end Memory

end Traces
