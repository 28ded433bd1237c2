import Mathlib.Data.Fin.Tuple.Basic
import Mathlib.Logic.Function.Basic
/-!
# SlotTable — fixed arrays of slots, scanned from the front

A C array walked by `for (auto &s : slots) if (p(s)) ...` is a function on `Fin n`.  `first p t` is the index the walk
stops at, and a write through the pointer it found is `Function.update` at that index.

`lookup p t` is the slot the walk finds.  In a table where at most one slot is accepted (`Solo`) it follows every write
(`lookup_update_hit`, `lookup_update_new`, `lookup_update_miss`).
-/
namespace SlotTable

variable {α : Type} {n : Nat}

/-- The index of the first slot a predicate accepts. -/
def first (p : α → Bool) (t : Fin n → α) : Option (Fin n) := Fin.find? (fun i => p (t i))

theorem first_eq_some_iff {p : α → Bool} {t : Fin n → α} {k : Fin n} :
    first p t = some k ↔ p (t k) = true ∧ ∀ j, j < k → p (t j) = false := Fin.find?_eq_some_iff

theorem first_eq_none_iff {p : α → Bool} {t : Fin n → α} : first p t = none ↔ ∀ k, p (t k) = false :=
  Fin.find?_eq_none_iff

theorem apply_of_first {p : α → Bool} {t : Fin n → α} {k : Fin n} (h : first p t = some k) : p (t k) = true :=
  (first_eq_some_iff.1 h).1

theorem first_ne_none {p : α → Bool} {t : Fin n → α} {k : Fin n} (h : p (t k) = true) : ∃ j, first p t = some j := by
  cases hf : first p t with
  | some j => exact ⟨j, rfl⟩
  | none => rw [first_eq_none_iff.1 hf k] at h; cases h

/-- **A slot accepted alone is the one the walk finds.** -/
theorem first_of_unique {p : α → Bool} {t : Fin n → α} {k : Fin n} (h : p (t k) = true)
    (hu : ∀ j, p (t j) = true → j = k) : first p t = some k := by
  obtain ⟨j, hj⟩ := first_ne_none h
  rw [hj, hu j (apply_of_first hj)]

/-- A walk over a table where only one slot may be accepted. -/
theorem first_of_others {p : α → Bool} {t : Fin n → α} {k : Fin n} (h : ∀ j, j ≠ k → p (t j) = false) :
    first p t = if p (t k) then some k else none := by
  by_cases hk : p (t k) = true
  · rw [if_pos hk]
    refine first_of_unique hk fun j hj => ?_
    by_contra hne
    rw [h j hne] at hj
    cases hj
  · rw [if_neg hk, first_eq_none_iff]
    intro j
    by_cases hj : j = k
    · rw [hj]
      exact Bool.eq_false_iff.2 hk
    · exact h j hj

theorem first_congr {p q : α → Bool} {t u : Fin n → α} (h : ∀ k, p (t k) = q (u k)) : first p t = first q u := by
  unfold first
  congr 1
  exact funext h

/-- **A write that keeps a slot's answer keeps what the walk finds.** -/
theorem first_update {p : α → Bool} {t : Fin n → α} {k : Fin n} {a : α} (h : p a = p (t k)) :
    first p (Function.update t k a) = first p t := by
  refine first_congr (fun j => ?_)
  by_cases hj : j = k
  · subst hj; simpa using h
  · simp [hj]

/-! ## The only accepted slot -/

/-- The slot the walk stops at. -/
def lookup (p : α → Bool) (t : Fin n → α) : Option α := (first p t).map t

/-- At most one slot is accepted. -/
def Solo (p : α → Bool) (t : Fin n → α) : Prop := ∀ j k, p (t j) = true → p (t k) = true → j = k

section Lookup

variable {p : α → Bool} {t : Fin n → α} {k : Fin n} {a : α}

theorem lookup_eq_none_iff : lookup p t = none ↔ ∀ k, p (t k) = false := by
  rw [lookup, Option.map_eq_none_iff, first_eq_none_iff]

theorem lookup_of_solo (hs : Solo p t) (hk : p (t k) = true) : lookup p t = some (t k) := by
  rw [lookup, first_of_unique hk (fun j hj => hs j k hj hk)]
  rfl

theorem lookup_eq_some (h : lookup p t = some a) : ∃ k, first p t = some k ∧ t k = a := by
  rw [lookup, Option.map_eq_some_iff] at h
  exact h

theorem solo_update_hit (hs : Solo p t) (hk : p (t k) = true) : Solo p (Function.update t k a) := by
  have honly : ∀ j, p (Function.update t k a j) = true → j = k := fun j hj => by
    by_contra hne
    rw [Function.update_of_ne hne] at hj
    exact hne (hs j k hj hk)
  exact fun i j hi hj => by rw [honly i hi, honly j hj]

/-- **A write to the accepted slot is what is found, if still accepted.** -/
theorem lookup_update_hit (hs : Solo p t) (hk : p (t k) = true) :
    lookup p (Function.update t k a) = if p a = true then some a else none := by
  by_cases ha : p a = true
  · have hka : p (Function.update t k a k) = true := by simpa using ha
    rw [if_pos ha, lookup_of_solo (solo_update_hit hs hk) hka]
    simp
  · rw [if_neg ha, lookup_eq_none_iff]
    intro j
    by_cases hj : j = k
    · subst hj; simpa using ha
    · rw [Function.update_of_ne hj]
      by_contra hpj
      exact hj (hs j k (by simpa using hpj) hk)

theorem solo_update_new (hnone : lookup p t = none) : Solo p (Function.update t k a) := by
  have honly : ∀ j, p (Function.update t k a j) = true → j = k := fun j hj => by
    by_contra hne
    rw [Function.update_of_ne hne, lookup_eq_none_iff.1 hnone j] at hj
    cases hj
  exact fun i j hi hj => by rw [honly i hi, honly j hj]

/-- **An accepted slot written into a table without one is found.** -/
theorem lookup_update_new (hnone : lookup p t = none) (ha : p a = true) :
    lookup p (Function.update t k a) = some a := by
  have hka : p (Function.update t k a k) = true := by simpa using ha
  rw [lookup_of_solo (solo_update_new hnone) hka]
  simp

/-- **A write of one slot not accepted over another changes nothing found.** -/
theorem lookup_update_miss (hk : p (t k) = false) (ha : p a = false) :
    lookup p (Function.update t k a) = lookup p t := by
  rw [lookup, lookup, first_update (by rw [ha, hk])]
  cases hf : first p t with
  | none => rfl
  | some j =>
    have hne : j ≠ k := fun he => by rw [he] at hf; rw [apply_of_first hf] at hk; cases hk
    simp [hne]

theorem solo_update_miss (hs : Solo p t) (ha : p a = false) : Solo p (Function.update t k a) := by
  have hold : ∀ j, p (Function.update t k a j) = true → p (t j) = true := fun j hj => by
    by_cases he : j = k
    · subst he
      rw [Function.update_self, ha] at hj
      cases hj
    · rwa [Function.update_of_ne he] at hj
  exact fun i j hi hj => hs i j (hold i hi) (hold j hj)

theorem lookup_map {f : α → α} (hf : ∀ a, p (f a) = p a) : lookup p (fun k => f (t k)) = (lookup p t).map f := by
  rw [lookup, lookup, first_congr (u := t) (fun k => hf (t k)), Option.map_map]
  rfl

theorem solo_map {f : α → α} (hs : Solo p t) (hf : ∀ a, p (f a) = p a) : Solo p (fun k => f (t k)) :=
  fun j k hj hk => hs j k (by rw [← hf]; exact hj) (by rw [← hf]; exact hk)

end Lookup

end SlotTable
