import Mathlib.Data.List.Basic
import Mathlib.Logic.Relation
/-!
# LockOrder — threads that take locks in the order of a rank

A `Prog` is what a piece of code does with locks: it holds one for the length of a scope, it branches and repeats, and it
starts threads.  A thread may hold a lock from its start to its end, so that taking that lock waits for the thread to end
(`join`).  A pool is the threads' stacks, the innermost scope first; a lock is held by the stacks that still have to release it.

Where every scope takes a lock of a higher rank than those around it, no threads wait for each other in a circle
(`not_circular`), and whatever a thread waits for, it waits in the end for one that can go on (`awaits_runnable`).
-/
namespace LockOrder

inductive Prog (L : Type) where
  | skip
  | seq (p q : Prog L)
  | choice (p q : Prog L)
  | loop (p : Prog L)
  | holding (l : L) (p : Prog L)
  /-- A new thread, which holds the lock, if one is given, until it ends. -/
  | spawn (l : Option L) (p : Prog L)

namespace Prog

variable {L : Type}

def all (ps : List (Prog L)) : Prog L := ps.foldr seq skip

def opt (p : Prog L) : Prog L := choice skip p

def anyOf (ps : List (Prog L)) : Prog L := ps.foldr choice skip

/-- Waits for the thread that holds the lock to end. -/
def join (l : L) : Prog L := holding l skip

end Prog

inductive Frame (L : Type) where
  | run (p : Prog L)
  | release (l : L)

abbrev Thread (L : Type) := List (Frame L)

abbrev Pool (L : Type) := List (Thread L)

variable {L : Type}

def Holds (t : Thread L) (l : L) : Prop := Frame.release l ∈ t

/-- The stack of a new thread. -/
def started (l : Option L) (p : Prog L) : Thread L := .run p :: (l.toList.map .release)

/-- A step that takes no lock: the thread after it, and the threads it starts. -/
inductive Move : Thread L → Thread L → Pool L → Prop
  | skip (k) : Move (.run .skip :: k) k []
  | seq (p q k) : Move (.run (.seq p q) :: k) (.run p :: .run q :: k) []
  | left (p q k) : Move (.run (.choice p q) :: k) (.run p :: k) []
  | right (p q k) : Move (.run (.choice p q) :: k) (.run q :: k) []
  | again (p k) : Move (.run (.loop p) :: k) (.run p :: .run (.loop p) :: k) []
  | done (p k) : Move (.run (.loop p) :: k) k []
  | spawn (l p k) : Move (.run (.spawn l p) :: k) k [started l p]
  | release (l k) : Move (.release l :: k) k []

/-- A step of the thread at `i`. -/
inductive Step (P : Pool L) (i : Nat) : Pool L → Prop
  | move {t t' new} (hi : P[i]? = some t) (hm : Move t t' new) : Step P i (P.set i t' ++ new)
  | acquire {l p k} (hi : P[i]? = some (.run (.holding l p) :: k)) (hfree : ∀ t ∈ P, ¬ Holds t l) :
      Step P i (P.set i (.run p :: .release l :: k))

def Next (P P' : Pool L) : Prop := ∃ i, Step P i P'

def CanStep (P : Pool L) (i : Nat) : Prop := ∃ P', Step P i P'

/-- The thread at `i` is about to take a lock that the thread at `j` holds. -/
def WaitsFor (P : Pool L) (i j : Nat) : Prop :=
  ∃ l p k t, P[i]? = some (.run (.holding l p) :: k) ∧ P[j]? = some t ∧ Holds t l

/-! ## Schedules -/

section Schedules

variable [DecidableEq L]

def holds (t : Thread L) (l : L) : Bool :=
  t.any fun
    | .release l' => decide (l' = l)
    | .run _ => false

/-- The step of a thread that is not at a lock; the flag says which branch it takes. -/
def advance (b : Bool) : Thread L → Option (Thread L × Pool L)
  | [] | .run (.holding _ _) :: _ => none
  | .run .skip :: k => some (k, [])
  | .run (.seq p q) :: k => some (.run p :: .run q :: k, [])
  | .run (.choice p q) :: k => some (.run (if b then q else p) :: k, [])
  | .run (.loop p) :: k => some (if b then .run p :: .run (.loop p) :: k else k, [])
  | .run (.spawn l p) :: k => some (k, [started l p])
  | .release _ :: k => some (k, [])

def stepAt (P : Pool L) (i : Nat) (b : Bool) : Option (Pool L) :=
  P[i]?.bind fun t =>
    match t with
    | .run (.holding l p) :: k => if P.any (holds · l) then none else some (P.set i (.run p :: .release l :: k))
    | _ => (advance b t).map (fun r => P.set i r.1 ++ r.2)

/-- The steps of the threads in the order given. -/
def schedule (P : Pool L) (s : List (Nat × Bool)) : Option (Pool L) := s.foldlM (fun P e => stepAt P e.1 e.2) P

theorem holds_iff {t : Thread L} {l : L} : holds t l = true ↔ Holds t l := by
  rw [holds, List.any_eq_true]
  constructor
  · rintro ⟨f, hf, h⟩
    cases f with
    | run p => cases h
    | release l' => exact of_decide_eq_true h ▸ hf
  · exact fun h => ⟨_, h, decide_eq_true rfl⟩

omit [DecidableEq L] in
theorem move_of_advance {b : Bool} {t t' : Thread L} {new : Pool L} (h : advance b t = some (t', new)) : Move t t' new := by
  unfold advance at h
  split at h
  · cases h
  · cases h
  · cases h; exact .skip _
  · cases h; exact .seq _ _ _
  · cases b <;> cases h
    · exact .left _ _ _
    · exact .right _ _ _
  · cases b <;> cases h
    · exact .done _ _
    · exact .again _ _
  · cases h; exact .spawn _ _ _
  · cases h; exact .release _ _

theorem step_of_stepAt {P P' : Pool L} {i : Nat} {b : Bool} (h : stepAt P i b = some P') : Step P i P' := by
  obtain ⟨t, ht, h⟩ := Option.bind_eq_some_iff.1 h
  split at h
  · split at h
    · cases h
    · rename_i l p k hfree
      cases h
      refine .acquire ht (fun t hmem hh => hfree ?_)
      exact List.any_eq_true.2 ⟨t, hmem, holds_iff.2 hh⟩
  · obtain ⟨⟨t', new⟩, hadv, rfl⟩ := Option.map_eq_some_iff.1 h
    exact .move ht (move_of_advance hadv)

/-- **A schedule is a run.** -/
theorem reachable_of_schedule : ∀ {s : List (Nat × Bool)} {P P' : Pool L}, schedule P s = some P' →
    Relation.ReflTransGen Next P P'
  | [], _, _, h => by cases h; exact .refl
  | e :: s, P, P', h => by
    rw [schedule, List.foldlM_cons] at h
    obtain ⟨Q, hQ, h⟩ := Option.bind_eq_some_iff.1 h
    exact .head ⟨e.1, step_of_stepAt hQ⟩ (reachable_of_schedule h)

end Schedules

/-! ## Ranks -/

section Ranks

variable (rank : L → Nat)

/-- The code takes locks of rank `r` at least, and in every scope higher ones than the scope's. -/
def Prog.Ordered : Nat → Prog L → Prop
  | _, .skip => True
  | r, .seq p q => p.Ordered r ∧ q.Ordered r
  | r, .choice p q => p.Ordered r ∧ q.Ordered r
  | r, .loop p => p.Ordered r
  | r, .holding l p => r ≤ rank l ∧ p.Ordered (rank l + 1)
  | _, .spawn l p => p.Ordered (l.elim 0 (fun l => rank l + 1))

instance decidableOrdered : ∀ (r : Nat) (p : Prog L), Decidable (p.Ordered rank r)
  | _, .skip => isTrue trivial
  | r, .seq p q => @instDecidableAnd _ _ (decidableOrdered r p) (decidableOrdered r q)
  | r, .choice p q => @instDecidableAnd _ _ (decidableOrdered r p) (decidableOrdered r q)
  | r, .loop p => decidableOrdered r p
  | r, .holding l p => @instDecidableAnd _ _ (Nat.decLe r (rank l)) (decidableOrdered (rank l + 1) p)
  | _, .spawn l p => decidableOrdered (l.elim 0 (fun l => rank l + 1)) p

/-- One more than the rank of the innermost lock. -/
def floor : Thread L → Nat
  | [] => 0
  | .run _ :: k => floor k
  | .release l :: _ => rank l + 1

/-- Every lock of the stack ranks above those around it, and so does what is still to be taken. -/
def ThreadOrdered : Thread L → Prop
  | [] => True
  | .run p :: k => p.Ordered rank (floor rank k) ∧ ThreadOrdered k
  | .release l :: k => floor rank k ≤ rank l ∧ ThreadOrdered k

def PoolOrdered (P : Pool L) : Prop := ∀ t ∈ P, ThreadOrdered rank t

variable {rank}

theorem threadOrdered_started {l : Option L} {p : Prog L} (h : p.Ordered rank (l.elim 0 (fun l => rank l + 1))) :
    ThreadOrdered rank (started l p) := by
  cases l with
  | none => exact ⟨h, trivial⟩
  | some l => exact ⟨h, Nat.zero_le _, trivial⟩

/-- **What a thread holds ranks below its floor.** -/
theorem rank_lt_floor {l : L} : ∀ {t : Thread L}, ThreadOrdered rank t → Holds t l → rank l < floor rank t
  | [], _, h => absurd h List.not_mem_nil
  | .run _ :: k, ht, h => by
    rcases List.mem_cons.1 h with heq | hk
    · cases heq
    · exact rank_lt_floor (t := k) ht.2 hk
  | .release l' :: k, ht, h => by
    rcases List.mem_cons.1 h with heq | hk
    · cases heq
      exact Nat.lt_succ_self _
    · have hlow := rank_lt_floor ht.2 hk
      exact Nat.lt_succ_of_lt (Nat.lt_of_lt_of_le hlow ht.1)

/-! ## What a step keeps -/

theorem move_ordered {t t' : Thread L} {new : Pool L} (hm : Move t t' new) (ht : ThreadOrdered rank t) :
    ThreadOrdered rank t' ∧ PoolOrdered rank new := by
  have hnone : PoolOrdered rank ([] : Pool L) := fun _ h => absurd h List.not_mem_nil
  cases hm with
  | skip k => exact ⟨ht.2, hnone⟩
  | seq p q k => exact ⟨⟨ht.1.1, ht.1.2, ht.2⟩, hnone⟩
  | left p q k => exact ⟨⟨ht.1.1, ht.2⟩, hnone⟩
  | right p q k => exact ⟨⟨ht.1.2, ht.2⟩, hnone⟩
  | again p k => exact ⟨⟨ht.1, ht.1, ht.2⟩, hnone⟩
  | done p k => exact ⟨ht.2, hnone⟩
  | spawn l p k =>
    refine ⟨ht.2, fun t h => ?_⟩
    rw [List.mem_singleton.1 h]
    exact threadOrdered_started ht.1
  | release l k => exact ⟨ht.2, hnone⟩

/-- **A step keeps the order.** -/
theorem step_ordered {P P' : Pool L} {i : Nat} (h : Step P i P') (hP : PoolOrdered rank P) : PoolOrdered rank P' := by
  have hset : ∀ {t'}, ThreadOrdered rank t' → PoolOrdered rank (P.set i t') := fun {t'} ht' t ht => by
    rcases List.mem_or_eq_of_mem_set ht with hold | rfl
    · exact hP t hold
    · exact ht'
  cases h with
  | move hi hm =>
    obtain ⟨ht', hnew⟩ := move_ordered hm (hP _ (List.mem_of_getElem? hi))
    intro t ht
    rcases List.mem_append.1 ht with hold | hadded
    · exact hset ht' t hold
    · exact hnew t hadded
  | acquire hi hfree =>
    have ht := hP _ (List.mem_of_getElem? hi)
    exact hset ⟨ht.1.2, ht.1.1, ht.2⟩

theorem reachable_ordered {P P' : Pool L} (h : Relation.ReflTransGen Next P P') (hP : PoolOrdered rank P) :
    PoolOrdered rank P' := by
  induction h with
  | refl => exact hP
  | tail _ hstep ih =>
    obtain ⟨i, hi⟩ := hstep
    exact step_ordered hi ih

/-! ## Waiting -/

section Waiting

variable {P : Pool L} (hP : PoolOrdered rank P)

include hP

/-- **A lock that is waited for ranks below the one its holder waits for.** -/
theorem rank_lt_of_holds {l l' : L} {p : Prog L} {k : Thread L} {j : Nat} (hj : P[j]? = some (.run (.holding l' p) :: k))
    (h : Holds (.run (.holding l' p) :: k) l) : rank l < rank l' := by
  have ht := hP _ (List.mem_of_getElem? hj)
  exact Nat.lt_of_lt_of_le (rank_lt_floor ht h) ht.1.1

/-- **Along a chain of waiting threads the ranks rise.** -/
theorem rank_lt_of_chain {i j : Nat} (h : Relation.TransGen (WaitsFor P) i j) {l l' : L} {p p' : Prog L} {k k' : Thread L}
    (hi : P[i]? = some (.run (.holding l p) :: k)) (hj : P[j]? = some (.run (.holding l' p') :: k')) : rank l < rank l' := by
  induction h using Relation.TransGen.head_induction_on generalizing l p k with
  | single hw =>
    obtain ⟨l₁, p₁, k₁, t, hi', ht, hh⟩ := hw
    rw [hi] at hi'
    cases hi'
    rw [hj] at ht
    cases ht
    exact rank_lt_of_holds hP hj hh
  | head hw hrest ih =>
    obtain ⟨l₁, p₁, k₁, t, hi', ht, hh⟩ := hw
    rw [hi] at hi'
    cases hi'
    -- the thread in between waits as well
    obtain ⟨l₂, p₂, k₂, hm⟩ : ∃ l₂ p₂ k₂, P[_]? = some (Frame.run (.holding l₂ p₂) :: k₂) := by
      cases hrest using Relation.TransGen.head_induction_on with
      | single hw' =>
        obtain ⟨l₂, p₂, k₂, -, hm, -⟩ := hw'
        exact ⟨l₂, p₂, k₂, hm⟩
      | head hw' _ =>
        obtain ⟨l₂, p₂, k₂, -, hm, -⟩ := hw'
        exact ⟨l₂, p₂, k₂, hm⟩
    rw [hm] at ht
    cases ht
    exact Nat.lt_trans (rank_lt_of_holds hP hm hh) (ih hm)

/-- **No thread waits for itself**, be it through others. -/
theorem not_circular (i : Nat) : ¬ Relation.TransGen (WaitsFor P) i i := by
  intro h
  obtain ⟨l, p, k, hi⟩ : ∃ l p k, P[i]? = some (Frame.run (.holding l p) :: k) := by
    obtain ⟨j, ⟨l, p, k, -, hi, -⟩, -⟩ := Relation.TransGen.head'_iff.1 h
    exact ⟨l, p, k, hi⟩
  exact Nat.lt_irrefl _ (rank_lt_of_chain hP h hi hi)

end Waiting

/-- A thread that is not at a lock can go on. -/
theorem exists_move : ∀ {f : Frame L} {k : Thread L}, (∀ l p, f ≠ .run (.holding l p)) → ∃ t' new, Move (f :: k) t' new
  | .run .skip, k, _ => ⟨_, _, .skip k⟩
  | .run (.seq p q), k, _ => ⟨_, _, .seq p q k⟩
  | .run (.choice p q), k, _ => ⟨_, _, .left p q k⟩
  | .run (.loop p), k, _ => ⟨_, _, .done p k⟩
  | .run (.holding l p), _, h => absurd rfl (h l p)
  | .run (.spawn l p), k, _ => ⟨_, _, .spawn l p k⟩
  | .release l, k, _ => ⟨_, _, .release l k⟩

theorem exists_floor_le (P : Pool L) : ∃ B, ∀ t ∈ P, floor rank t ≤ B := by
  induction P with
  | nil => exact ⟨0, fun _ h => absurd h List.not_mem_nil⟩
  | cons t P ih =>
    obtain ⟨B, hB⟩ := ih
    refine ⟨max (floor rank t) B, fun t' ht' => ?_⟩
    rcases List.mem_cons.1 ht' with rfl | hmem
    · exact Nat.le_max_left _ _
    · exact Nat.le_trans (hB t' hmem) (Nat.le_max_right _ _)

/-- **A thread that has not ended waits, through those that hold what it waits for, for one that can go on.** -/
theorem awaits_runnable {P : Pool L} (hP : PoolOrdered rank P) {i : Nat} {t : Thread L} (hi : P[i]? = some t) (ht : t ≠ []) :
    ∃ j, Relation.ReflTransGen (WaitsFor P) i j ∧ CanStep P j := by
  have hfloor : ∃ B, ∀ t ∈ P, floor rank t ≤ B := exists_floor_le P
  obtain ⟨B, hB⟩ := hfloor
  -- by induction on how far the lock that is waited for ranks below the bound
  suffices h : ∀ n i l p k, P[i]? = some (Frame.run (.holding l p) :: k) → B ≤ rank l + n →
      ∃ j, Relation.ReflTransGen (WaitsFor P) i j ∧ CanStep P j by
    obtain ⟨f, k, rfl⟩ := List.exists_cons_of_ne_nil ht
    by_cases hf : ∃ l p, f = .run (.holding l p)
    · obtain ⟨l, p, rfl⟩ := hf
      exact h B i l p k hi (Nat.le_add_left _ _)
    · obtain ⟨t', new, hm⟩ := exists_move (k := k) fun l p he => hf ⟨l, p, he⟩
      exact ⟨i, .refl, _, .move hi hm⟩
  intro n
  induction n with
  | zero =>
    intro i l p k hi hle
    refine ⟨i, .refl, _, .acquire hi fun t ht hh => ?_⟩
    have := Nat.lt_of_lt_of_le (rank_lt_floor (hP t ht) hh) (hB t ht)
    omega
  | succ n ih =>
    intro i l p k hi hle
    by_cases hfree : ∀ t ∈ P, ¬ Holds t l
    · exact ⟨i, .refl, _, .acquire hi hfree⟩
    · push Not at hfree
      obtain ⟨t, hmem, hh⟩ := hfree
      obtain ⟨j, hj⟩ := List.mem_iff_getElem?.1 hmem
      have hw : WaitsFor P i j := ⟨l, p, k, t, hi, hj, hh⟩
      cases t with
      | nil => exact absurd hh List.not_mem_nil
      | cons f k' =>
        by_cases hf : ∃ l' p', f = .run (.holding l' p')
        · obtain ⟨l', p', rfl⟩ := hf
          have hlt := rank_lt_of_holds hP hj hh
          obtain ⟨m, hchain, hcan⟩ := ih j l' p' k' hj (by omega)
          exact ⟨m, .head hw hchain, hcan⟩
        · obtain ⟨t', new, hm⟩ := exists_move (k := k') fun l' p' he => hf ⟨l', p', he⟩
          exact ⟨j, .single hw, _, .move hj hm⟩

end Ranks

end LockOrder
