import Mathlib.Data.List.Basic
import Mathlib.Logic.Function.Basic
/-!
# ArrayQueue — a queue in an array, with removal from the middle

`ArrayQueue cap α` is an array of `cap` cells and a count, with nothing that keeps the two in step; an access to a cell
outside the array is `none`.  `append` writes behind the last element, `takeFirst` looks for the first element that is
asked for and moves the ones behind it down by one, cell by cell.  While the count is in range neither faults, and on the
list of the elements they are an append and a removal (`append_eq`, `takeFirst_cases`).
-/

structure ArrayQueue (cap : Nat) (α : Type) where
  cells : Fin cap → α
  count : Nat

namespace ArrayQueue

variable {cap : Nat} {α : Type}

def get (q : ArrayQueue cap α) (i : Nat) : Option α := if h : i < cap then some (q.cells ⟨i, h⟩) else none

def set (q : ArrayQueue cap α) (i : Nat) (a : α) : Option (ArrayQueue cap α) :=
  if h : i < cap then some { q with cells := Function.update q.cells ⟨i, h⟩ a } else none

/-- The elements, oldest first. -/
def toList (q : ArrayQueue cap α) : List α := (List.ofFn q.cells).take q.count

def append (q : ArrayQueue cap α) (a : α) : Option (ArrayQueue cap α) := do
  let q' ← q.set q.count a
  return { q' with count := q.count + 1 }

/-- `q[j - 1] = q[j]` for `n` cells from `j` on. -/
def shiftDown : Nat → Nat → ArrayQueue cap α → Option (ArrayQueue cap α)
  | 0, _, q => some q
  | n + 1, j, q => do
    let a ← q.get j
    let q' ← q.set (j - 1) a
    shiftDown n (j + 1) q'

/-- The index of the first element accepted, of `n` from `i` on. -/
def findFrom (p : α → Bool) (q : ArrayQueue cap α) : Nat → Nat → Option (Option Nat)
  | 0, _ => some none
  | n + 1, i => do
    let a ← q.get i
    if p a then return some i
    findFrom p q n (i + 1)

/-- Take the first element accepted out of the array. -/
def takeFirst (p : α → Bool) (q : ArrayQueue cap α) : Option (Option (α × ArrayQueue cap α)) := do
  match ← findFrom p q q.count 0 with
  | none => return none
  | some i =>
    let a ← q.get i
    let q' ← shiftDown (q.count - (i + 1)) (i + 1) q
    return some (a, { q' with count := q.count - 1 })

variable {q : ArrayQueue cap α}

theorem get_eq {i : Nat} (h : i < cap) : q.get i = some (q.cells ⟨i, h⟩) := dif_pos h

theorem set_eq {i : Nat} (h : i < cap) (a : α) :
    q.set i a = some { q with cells := Function.update q.cells ⟨i, h⟩ a } := dif_pos h

theorem length_toList (h : q.count ≤ cap) : q.toList.length = q.count := by
  rw [toList, List.length_take, List.length_ofFn, Nat.min_eq_left h]

theorem getElem_toList {i : Nat} (h : i < cap) (hi : i < q.toList.length) : q.toList[i] = q.cells ⟨i, h⟩ := by
  simp [toList]

/-- **Appending to a queue with room writes inside the array.** -/
theorem append_eq (h : q.count < cap) (a : α) :
    ∃ q', q.append a = some q' ∧ q'.count = q.count + 1 ∧ q'.toList = q.toList ++ [a] := by
  refine ⟨{ cells := Function.update q.cells ⟨q.count, h⟩ a, count := q.count + 1 }, ?_, rfl, ?_⟩
  · rw [append, set_eq h]
    rfl
  · have hold : q.toList.length = q.count := length_toList (by omega)
    have hnew : ∀ c : Fin cap → α, (ArrayQueue.mk c (q.count + 1)).toList.length = q.count + 1 :=
      fun c => length_toList (q := ⟨c, q.count + 1⟩) h
    apply List.ext_getElem
    · rw [hnew, List.length_append, hold, List.length_singleton]
    · intro i h1 h2
      rw [hnew] at h1
      have hi : i < cap := by omega
      rw [getElem_toList hi]
      by_cases hlt : i < q.count
      · rw [List.getElem_append_left (by omega), getElem_toList hi]
        exact Function.update_of_ne (fun he => by simp at he; omega) ..
      · have hq : i = q.count := by omega
        subst hq
        rw [List.getElem_append_right (by omega)]
        simp

/-- **Moving cells down stays inside the array** and leaves the others. -/
theorem shiftDown_eq : ∀ (n j : Nat) (q : ArrayQueue cap α), 1 ≤ j → j + n ≤ cap →
    ∃ q', shiftDown n j q = some q' ∧ q'.count = q.count ∧
      ∀ i : Fin cap, (∀ h : i.val + 1 < cap, j ≤ i.val + 1 ∧ i.val + 1 < j + n → q'.cells i = q.cells ⟨i.val + 1, h⟩) ∧
        (¬ (j ≤ i.val + 1 ∧ i.val + 1 < j + n) → q'.cells i = q.cells i)
  | 0, j, q, _, _ => ⟨q, rfl, rfl, fun i => ⟨fun _ hi => by omega, fun _ => rfl⟩⟩
  | n + 1, j, q, hj, hcap => by
    have hjcap : j < cap := by omega
    have hjcap' : j - 1 < cap := by omega
    have ih := shiftDown_eq n (j + 1) { q with cells := Function.update q.cells ⟨j - 1, hjcap'⟩ (q.cells ⟨j, hjcap⟩) }
      (by omega) (by omega)
    obtain ⟨q', hq', hcount, hcells⟩ := ih
    refine ⟨q', ?_, hcount, fun i => ?_⟩
    · rw [shiftDown, get_eq hjcap]
      simp only [Option.bind_eq_bind, Option.bind_some, set_eq hjcap']
      exact hq'
    · obtain ⟨hin, hout⟩ := hcells i
      by_cases hi : i.val + 1 = j
      · -- the cell this turn wrote
        have hii : i = ⟨j - 1, hjcap'⟩ := Fin.ext (by simp; omega)
        have hval := hout (by omega)
        rw [hii] at hval ⊢
        refine ⟨fun h _ => ?_, fun h => absurd ⟨by simp; omega, by simp; omega⟩ h⟩
        rw [hval]
        refine (Function.update_self ..).trans (congrArg q.cells (Fin.ext ?_))
        show j = j - 1 + 1
        omega
      · constructor
        · intro h hrange
          rw [hin h (by omega)]
          exact Function.update_of_ne (fun he => by simp at he; omega) ..
        · intro hrange
          rw [hout (by omega)]
          exact Function.update_of_ne (fun he => hi (by rw [he]; simp; omega)) ..

/-- **The search stays inside the array** and stops at the first element accepted. -/
theorem findFrom_eq (p : α → Bool) (q : ArrayQueue cap α) : ∀ (n i : Nat), i + n ≤ cap →
    ∃ r, findFrom p q n i = some r ∧
      (∀ j : Fin cap, i ≤ j.val → j.val < r.getD (i + n) → p (q.cells j) = false) ∧
      ∀ k, r = some k → k < i + n ∧ ∃ h : k < cap, p (q.cells ⟨k, h⟩) = true
  | 0, i, _ => ⟨none, rfl, fun j h1 h2 => absurd h2 (by simp; omega), fun _ h => by cases h⟩
  | n + 1, i, hcap => by
    have hi : i < cap := by omega
    by_cases hp : p (q.cells ⟨i, hi⟩) = true
    · refine ⟨some i, ?_, fun j h1 h2 => absurd h2 (by simp; omega), ?_⟩
      · rw [findFrom, get_eq hi]
        simp [hp]
      · rintro k hk
        cases hk
        exact ⟨by omega, hi, hp⟩
    · obtain ⟨r, hr, hbefore, hfound⟩ := findFrom_eq p q n (i + 1) (by omega)
      refine ⟨r, ?_, fun j h1 h2 => ?_, fun k hk => ?_⟩
      · rw [findFrom, get_eq hi]
        simpa [hp] using hr
      · by_cases hji : j.val = i
        · have hj : j = ⟨i, hi⟩ := Fin.ext hji
          rw [hj]
          exact Bool.not_eq_true _ ▸ hp
        · exact hbefore j (by omega) (by rwa [show i + 1 + n = i + (n + 1) by omega])
      · obtain ⟨h1, h2⟩ := hfound k hk
        exact ⟨by omega, h2⟩

/-- **Taking the first match out of the array**: nothing faults, the elements around it close up. -/
theorem takeFirst_cases (p : α → Bool) (h : q.count ≤ cap) :
    (takeFirst p q = some none ∧ ∀ a ∈ q.toList, p a = false) ∨
    ∃ before a after q', takeFirst p q = some (some (a, q')) ∧ q.toList = before ++ a :: after ∧
      (∀ b ∈ before, p b = false) ∧ p a = true ∧ q'.toList = before ++ after ∧ q'.count + 1 = q.count := by
  have hlen := length_toList h
  obtain ⟨r, hr, hbefore, hfound⟩ := findFrom_eq p q q.count 0 (by omega)
  cases r with
  | none =>
    refine Or.inl ⟨?_, fun a ha => ?_⟩
    · rw [takeFirst, hr]
      rfl
    · obtain ⟨i, hi, rfl⟩ := List.mem_iff_getElem.1 ha
      rw [getElem_toList (by omega)]
      exact hbefore _ (Nat.zero_le _) (by simp; omega)
  | some k =>
    obtain ⟨hk, hkcap, hpk⟩ := hfound k rfl
    obtain ⟨q', hq', -, hcells⟩ := shiftDown_eq (q.count - (k + 1)) (k + 1) q (by omega) (by omega)
    have hkl : k < q.toList.length := by omega
    have hlen' : (ArrayQueue.mk q'.cells (q.count - 1)).toList.length = q.count - 1 :=
      length_toList (q := ⟨q'.cells, q.count - 1⟩) (by show q.count - 1 ≤ cap; omega)
    refine Or.inr ⟨q.toList.take k, q.cells ⟨k, hkcap⟩, q.toList.drop (k + 1), ⟨q'.cells, q.count - 1⟩, ?_, ?_, ?_, hpk, ?_, ?_⟩
    · rw [takeFirst, hr]
      simp only [Option.bind_eq_bind, Option.bind_some, get_eq hkcap, hq', Option.pure_def]
    · rw [← getElem_toList hkcap hkl, ← List.drop_eq_getElem_cons hkl, List.take_append_drop]
    · intro b hb
      obtain ⟨i, hi, rfl⟩ := List.mem_iff_getElem.1 hb
      rw [List.length_take] at hi
      rw [List.getElem_take, getElem_toList (by omega)]
      exact hbefore _ (Nat.zero_le _) (by simp; omega)
    · apply List.ext_getElem
      · rw [hlen', List.length_append, List.length_take, List.length_drop]
        omega
      · intro i h1 h2
        rw [hlen'] at h1
        have hicap : i < cap := by omega
        rw [getElem_toList hicap]
        obtain ⟨hin, hout⟩ := hcells ⟨i, hicap⟩
        by_cases hik : i < k
        · rw [List.getElem_append_left (by rw [List.length_take]; omega), List.getElem_take, getElem_toList hicap]
          exact hout (by simp; omega)
        · have htake : (q.toList.take k).length = k := by
            rw [List.length_take]
            omega
          rw [List.getElem_append_right (by omega), List.getElem_drop,
            getElem_toList (show k + 1 + (i - (q.toList.take k).length) < cap by omega)]
          refine (hin (by simp; omega) ⟨by simp; omega, by simp; omega⟩).trans (congrArg q.cells (Fin.ext ?_))
          simp only [htake]
          omega
    · show q.count - 1 + 1 = q.count
      omega

end ArrayQueue
