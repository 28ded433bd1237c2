import Mathlib.Data.List.Chain
/-!
# Resender — sending one item again until it is acknowledged

A sender holds at most one pending item.  Its trace is a list of events: an item is sent, the pending one is sent again, an
acknowledgement comes, the item is let go.  A `Policy` says which acknowledgements cover an item, what counts as the same item
and how far apart two sendings are, and how often an item may be sent again.  A trace is within the policy when every resending
is one of the pending item, within the limit and far enough from the sending before it (`Keeps`).  Between two sendings of new
items there are then at most `max` resendings, all of the item and each far enough after the one before, and none after the item
is covered or let go (`within_of_keeps`).
-/
namespace Resender

inductive Event (σ τ α : Type) where
  | sent (t : τ) (s : σ)
  | resent (t : τ) (s : σ)
  | acked (a : α)
  | reset
deriving DecidableEq

structure Pending (σ τ : Type) where
  item : σ
  resends : Nat
  last : τ

structure Policy (σ τ α : Type) where
  same : σ → σ → Prop
  covers : σ → α → Bool
  gap : τ → τ → Prop
  max : Nat

variable {σ τ α : Type}

namespace Event

def isSent : Event σ τ α → Bool
  | sent _ _ => true
  | _ => false

/-- The time of a resending. -/
def resentAt : Event σ τ α → Option τ
  | resent t _ => some t
  | _ => none

/-- The event ends the item. -/
def ends (P : Policy σ τ α) (s : σ) : Event σ τ α → Bool
  | acked a => P.covers s a
  | reset => true
  | _ => false

end Event

namespace Policy

variable (P : Policy σ τ α)

def next (p : Option (Pending σ τ)) : Event σ τ α → Option (Pending σ τ)
  | .sent t s => some ⟨s, 0, t⟩
  | .resent t _ => p.map (fun q => { q with resends := q.resends + 1, last := t })
  | .acked a => p.filter (fun q => !P.covers q.item a)
  | .reset => none

theorem next_acked (q : Pending σ τ) (a : α) : P.next (some q) (.acked a) = if P.covers q.item a then none else some q := by
  cases hc : P.covers q.item a <;> simp [next, Option.filter, hc]

/-- A resending is one of the pending item, within the limit and far enough after the last. -/
def Ok (p : Option (Pending σ τ)) : Event σ τ α → Prop
  | .resent t s => ∃ q ∈ p, P.same q.item s ∧ q.resends < P.max ∧ P.gap q.last t
  | _ => True

def Keeps : Option (Pending σ τ) → List (Event σ τ α) → Prop
  | _, [] => True
  | p, e :: es => P.Ok p e ∧ Keeps (P.next p e) es

def nextAll (p : Option (Pending σ τ)) (es : List (Event σ τ α)) : Option (Pending σ τ) := es.foldl P.next p

theorem keeps_append : ∀ (es : List (Event σ τ α)) {p : Option (Pending σ τ)} {fs : List (Event σ τ α)},
    P.Keeps p (es ++ fs) ↔ P.Keeps p es ∧ P.Keeps (P.nextAll p es) fs
  | [], _, _ => by simp [Keeps, nextAll]
  | e :: es, p, fs => by
    rw [List.cons_append, Keeps, Keeps, keeps_append es, and_assoc]
    rfl

/-- The events between the sending of an item and the next. -/
structure Within (t : τ) (n : Nat) (s : σ) (es : List (Event σ τ α)) : Prop where
  same : ∀ t' s', .resent t' s' ∈ es → P.same s s'
  count : n + (es.filterMap Event.resentAt).length ≤ P.max
  spaced : (t :: es.filterMap Event.resentAt).IsChain P.gap
  ended : ∀ before e after, es = before ++ e :: after → e.ends P s = true → after.filterMap Event.resentAt = []

variable {P}

/-- With nothing pending, nothing is sent again. -/
theorem no_resent_of_none : ∀ (es : List (Event σ τ α)), P.Keeps none es → (∀ e ∈ es, e.isSent = false) →
    es.filterMap Event.resentAt = []
  | [], _, _ => rfl
  | e :: es, h, hnew => by
    have hrest : ∀ e ∈ es, e.isSent = false := fun e he => hnew e (List.mem_cons_of_mem _ he)
    cases e with
    | sent t s => exact absurd (hnew _ List.mem_cons_self) (by simp [Event.isSent])
    | resent t s =>
      obtain ⟨q, hq, -⟩ := h.1
      cases hq
    | acked a => exact no_resent_of_none es h.2 hrest
    | reset => exact no_resent_of_none es h.2 hrest

/-- The events that follow an event which leaves nothing pending. -/
theorem within_of_ended {t : τ} {n : Nat} {s : σ} {e : Event σ τ α} {es : List (Event σ τ α)} (hn : n ≤ P.max)
    (he : e.resentAt = none) (hes : es.filterMap Event.resentAt = []) : P.Within t n s (e :: es) := by
  have htimes : (e :: es).filterMap Event.resentAt = [] := by rw [List.filterMap_cons, he, hes]
  constructor
  · intro t' s' hmem
    have : t' ∈ (e :: es).filterMap Event.resentAt := List.mem_filterMap.2 ⟨_, hmem, rfl⟩
    rw [htimes] at this
    cases this
  · rw [htimes]
    exact hn
  · rw [htimes]
    exact List.isChain_singleton t
  · intro before e' after hsplit _
    rw [hsplit, List.filterMap_append, List.append_eq_nil_iff] at htimes
    rw [List.filterMap_cons] at htimes
    cases hr : e'.resentAt with
    | none => simpa [hr] using htimes.2
    | some t' => simp [hr] at htimes

/-- **Whatever is pending is sent again as the policy says.** -/
theorem within_of_pending : ∀ (es : List (Event σ τ α)) {t : τ} {n : Nat} {s : σ}, P.Keeps (some ⟨s, n, t⟩) es →
    (∀ e ∈ es, e.isSent = false) → n ≤ P.max → P.Within t n s es
  | [], t, n, s, _, _, hn => by
    refine ⟨fun _ _ h => ?_, hn, List.isChain_singleton t, fun before e after h _ => ?_⟩
    · cases h
    · have := congrArg List.length h
      simp at this
  | e :: es, t, n, s, h, hnew, hn => by
    have hrest : ∀ e ∈ es, e.isSent = false := fun e he => hnew e (List.mem_cons_of_mem _ he)
    cases e with
    | sent t s => exact absurd (hnew _ List.mem_cons_self) (by simp [Event.isSent])
    | reset => exact within_of_ended hn rfl (no_resent_of_none es h.2 hrest)
    | acked a =>
      have hkeep := h.2
      rw [next_acked] at hkeep
      by_cases hc : P.covers s a = true
      · have hnone : P.Keeps none es := by simpa [hc] using hkeep
        exact within_of_ended hn rfl (no_resent_of_none es hnone hrest)
      · -- the acknowledgement is for something else
        have hsome : P.Keeps (some ⟨s, n, t⟩) es := by simpa [hc] using hkeep
        have ih := within_of_pending es hsome hrest hn
        refine ⟨fun t' s' hmem => ih.same t' s' ?_, ih.count, ih.spaced, fun before e after hsplit hend => ?_⟩
        · simpa using hmem
        · cases before with
          | nil =>
            rw [List.nil_append, List.cons.injEq] at hsplit
            rw [← hsplit.1] at hend
            exact absurd hend hc
          | cons b before =>
            rw [List.cons_append, List.cons.injEq] at hsplit
            exact ih.ended before e after hsplit.2 hend
    | resent t' s' =>
      obtain ⟨⟨q, hq, hsame, hlt, hgap⟩, hkeep⟩ := h
      cases hq
      have ih := within_of_pending es hkeep hrest hlt
      constructor
      · intro t'' s'' hmem
        rcases List.mem_cons.1 hmem with heq | hmem
        · cases heq
          exact hsame
        · exact ih.same t'' s'' hmem
      · have hcount := ih.count
        dsimp only at hcount
        rw [List.filterMap_cons, Event.resentAt, List.length_cons]
        omega
      · rw [List.filterMap_cons, Event.resentAt]
        exact List.isChain_cons_cons.2 ⟨hgap, ih.spaced⟩
      · intro before e after hsplit hend
        cases before with
        | nil =>
          rw [List.nil_append, List.cons.injEq] at hsplit
          rw [← hsplit.1] at hend
          cases hend
        | cons b before =>
          rw [List.cons_append, List.cons.injEq] at hsplit
          exact ih.ended before e after hsplit.2 hend

/-- **After an item is sent and before the next is**, it is sent again at most `max` times, each far enough after the last,
and not after it is covered or let go. -/
theorem within_of_keeps {before mid after : List (Event σ τ α)} {t : τ} {s : σ} {p : Option (Pending σ τ)}
    (h : P.Keeps p (before ++ .sent t s :: mid ++ after)) (hnew : ∀ e ∈ mid, e.isSent = false) : P.Within t 0 s mid := by
  rw [keeps_append, keeps_append, Keeps] at h
  exact within_of_pending mid h.1.2.2 hnew (Nat.zero_le _)

end Policy
end Resender
