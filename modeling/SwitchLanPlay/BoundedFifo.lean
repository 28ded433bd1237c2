import Mathlib.Data.List.Induction
/-!
# BoundedFifo — a bounded FIFO that accounts for every element

A `Ledger` lists the elements ever offered, oldest first, each with its fate.  The FIFO is the held ones.  An element is held
when fewer than `cap` are as it is offered; a take settles the oldest one, as `taken` when it fits the taker and as `rejected`
when it does not.  Over a run every fate but `held` was brought about by one operation (`caused_of_run`), and the elements
handed out are the taken ones in the order of their offers (`elements_answers`).
-/
namespace BoundedFifo

inductive Fate where
  | held
  | taken
  | rejected
  | refused
  | flushed
deriving DecidableEq

abbrev Ledger (α : Type) := List (α × Fate)

/-- An element is offered, one is asked for by a taker, the FIFO is asked whether it holds any, it is emptied. -/
inductive Op (α κ : Type) where
  | offer (a : α)
  | take (k : κ)
  | probe
  | flush

inductive Answer (α : Type) where
  | done
  | element (a : α)
  | nothing
  | pending (b : Bool)
deriving DecidableEq

variable {α κ : Type}

/-- The elements of one fate, in the order they were offered. -/
def withFate (f : Fate) (l : Ledger α) : List α := (l.filter (fun e => e.2 == f)).map Prod.fst

def held (l : Ledger α) : List α := withFate .held l

/-- The oldest held element meets its fate. -/
def settle (f : Fate) : Ledger α → Ledger α
  | [] => []
  | e :: l => if e.2 = .held then (e.1, f) :: l else e :: settle f l

def flush (l : Ledger α) : Ledger α := l.map (fun e => if e.2 = .held then (e.1, .flushed) else e)

def Answer.element? : Answer α → Option α
  | .element a => some a
  | _ => none

def Op.offered? : Op α κ → Option α
  | .offer a => some a
  | _ => none

section Runs

variable (cap : Nat) (fits : κ → α → Bool)

def step (l : Ledger α) : Op α κ → Ledger α
  | .offer a => l ++ [(a, if (held l).length < cap then .held else .refused)]
  | .take k =>
    match held l with
    | [] => l
    | a :: _ => settle (if fits k a then .taken else .rejected) l
  | .probe => l
  | .flush => flush l

def answer (l : Ledger α) : Op α κ → Answer α
  | .offer _ => .done
  | .take k =>
    match held l with
    | [] => .nothing
    | a :: _ => if fits k a then .element a else .nothing
  | .probe => .pending (!(held l).isEmpty)
  | .flush => .done

def run (l : Ledger α) (ops : List (Op α κ)) : Ledger α := ops.foldl (step cap fits) l

/-- What the operations of a run answer, in order. -/
def answers : Ledger α → List (Op α κ) → List (Answer α)
  | _, [] => []
  | l, op :: ops => answer fits l op :: answers (step cap fits l op) ops

/-- The operation that decided the fate of the element at place `i`. -/
inductive Caused (l : Ledger α) (i : Nat) (a : α) : Fate → Op α κ → Prop
  | taken (k : κ) (hheld : l[i]? = some (a, .held)) (hfits : fits k a = true) : Caused l i a .taken (.take k)
  | rejected (k : κ) (hheld : l[i]? = some (a, .held)) (hfits : fits k a = false) : Caused l i a .rejected (.take k)
  | refused (hlast : l.length = i) (hfull : cap ≤ (held l).length) : Caused l i a .refused (.offer a)
  | flushed (hheld : l[i]? = some (a, .held)) : Caused l i a .flushed .flush

end Runs

/-! ## The fates of a ledger -/

@[simp] theorem withFate_nil (f : Fate) : withFate f ([] : Ledger α) = [] := rfl

theorem withFate_cons_self (f : Fate) (a : α) (l : Ledger α) : withFate f ((a, f) :: l) = a :: withFate f l := by
  simp [withFate]

theorem withFate_cons_of_ne {f : Fate} {e : α × Fate} (h : e.2 ≠ f) (l : Ledger α) : withFate f (e :: l) = withFate f l := by
  simp [withFate, h]

theorem withFate_append (f : Fate) (l m : Ledger α) : withFate f (l ++ m) = withFate f l ++ withFate f m := by
  simp [withFate]

theorem withFate_eq_nil {f : Fate} {l : Ledger α} (h : ∀ e ∈ l, e.2 ≠ f) : withFate f l = [] := by
  rw [withFate, List.map_eq_nil_iff, List.filter_eq_nil_iff]
  intro e he
  simpa using h e he

theorem map_fst_settle (f : Fate) : ∀ l : Ledger α, (settle f l).map Prod.fst = l.map Prod.fst
  | [] => rfl
  | e :: l => by
    unfold settle
    split
    · rfl
    · rw [List.map_cons, map_fst_settle f l, List.map_cons]

theorem map_fst_flush (l : Ledger α) : (flush l).map Prod.fst = l.map Prod.fst := by
  rw [flush, List.map_map]
  apply List.map_congr_left
  intro e _
  simp only [Function.comp_apply]
  split <;> rfl

/-- **Settling takes the oldest element off the FIFO.** -/
theorem held_settle {f : Fate} (hf : f ≠ .held) : ∀ l : Ledger α, held (settle f l) = (held l).tail
  | [] => rfl
  | (a, g) :: l => by
    unfold settle
    by_cases hg : g = .held
    · subst hg
      rw [if_pos rfl, held, withFate_cons_of_ne hf, held, withFate_cons_self]
      rfl
    · rw [if_neg hg, held, withFate_cons_of_ne hg, held, withFate_cons_of_ne hg]
      exact held_settle hf l

theorem fate_flush_ne {l : Ledger α} {e : α × Fate} (h : e ∈ flush l) : e.2 ≠ .held := by
  obtain ⟨d, -, rfl⟩ := List.mem_map.1 h
  split
  · simp
  · assumption

theorem held_flush (l : Ledger α) : held (flush l) = [] := withFate_eq_nil (fun _ => fate_flush_ne)

/-- **Settling and emptying leave every element that was not held.** -/
theorem getElem?_settle {f : Fate} {i : Nat} {a : α} {g : Fate} : ∀ {l : Ledger α},
    (settle f l)[i]? = some (a, g) →
      l[i]? = some (a, g) ∨ (g = f ∧ l[i]? = some (a, .held) ∧ (held l).head? = some a)
  | [], h => .inl h
  | (b, g') :: l, h => by
    unfold settle at h
    by_cases hg : g' = .held
    · subst hg
      rw [if_pos rfl] at h
      cases i with
      | zero =>
        obtain ⟨rfl, rfl⟩ : b = a ∧ f = g := by simpa using h
        exact .inr ⟨rfl, rfl, by rw [held, withFate_cons_self]; rfl⟩
      | succ i => exact .inl h
    · rw [if_neg hg] at h
      cases i with
      | zero => exact .inl h
      | succ i =>
        rcases getElem?_settle (l := l) h with hsame | ⟨hgf, hheld, hhead⟩
        · exact .inl hsame
        · exact .inr ⟨hgf, hheld, by rw [held, withFate_cons_of_ne hg]; exact hhead⟩

theorem getElem?_flush {l : Ledger α} {i : Nat} {a : α} {g : Fate} (h : (flush l)[i]? = some (a, g)) :
    l[i]? = some (a, g) ∨ (g = .flushed ∧ l[i]? = some (a, .held)) := by
  rw [flush, List.getElem?_map] at h
  obtain ⟨⟨b, g'⟩, hb, he⟩ := Option.map_eq_some_iff.1 h
  by_cases hg : g' = .held
  · subst hg
    rw [if_pos rfl] at he
    cases he
    exact .inr ⟨rfl, hb⟩
  · rw [if_neg hg] at he
    cases he
    exact .inl hb

/-! ## What was taken -/

/-- After a held element stand only held and refused ones. -/
def Ordered (l : Ledger α) : Prop := l.Pairwise (fun x y => x.2 = .held → y.2 = .held ∨ y.2 = .refused)

theorem ordered_settle {f : Fate} (hf : f ≠ .held) : ∀ {l : Ledger α}, Ordered l → Ordered (settle f l)
  | [], h => h
  | (a, g) :: l, h => by
    obtain ⟨hhead, htail⟩ := List.pairwise_cons.1 h
    unfold settle
    by_cases hg : g = .held
    · rw [if_pos hg]
      exact List.pairwise_cons.2 ⟨fun y _ hheld => absurd hheld hf, htail⟩
    · rw [if_neg hg]
      exact List.pairwise_cons.2 ⟨fun y _ hheld => absurd hheld hg, ordered_settle hf htail⟩

theorem ordered_flush (l : Ledger α) : Ordered (flush l) :=
  List.pairwise_of_forall_mem_list (fun _ he _ _ hheld => absurd hheld (fate_flush_ne he))

theorem withFate_taken_flush : ∀ l : Ledger α, withFate .taken (flush l) = withFate .taken l
  | [] => rfl
  | (a, g) :: l => by
    have ih := withFate_taken_flush l
    rw [flush, List.map_cons, ← flush]
    cases g <;> simp_all [withFate]

/-- **The element settled as taken is the last one taken.** -/
theorem withFate_taken_settle : ∀ {l : Ledger α} {a : α} {rest : List α}, Ordered l → held l = a :: rest →
    withFate .taken (settle .taken l) = withFate .taken l ++ [a]
  | [], _, _, _, h => by cases h
  | (b, g) :: l, a, rest, hord, h => by
    obtain ⟨hhead, htail⟩ := List.pairwise_cons.1 hord
    unfold settle
    by_cases hg : g = .held
    · subst hg
      rw [held, withFate_cons_self] at h
      obtain ⟨rfl, -⟩ : b = a ∧ _ := by simpa using h
      have hnone : withFate .taken l = [] := by
        apply withFate_eq_nil
        intro e he htaken
        rcases hhead e he rfl with hh | hh <;> rw [htaken] at hh <;> cases hh
      rw [if_pos rfl, withFate_cons_self, withFate_cons_of_ne (by simp), hnone]
      rfl
    · rw [held, withFate_cons_of_ne hg] at h
      have ih := withFate_taken_settle htail h
      rw [if_neg hg]
      by_cases ht : g = .taken
      · subst ht
        rw [withFate_cons_self, withFate_cons_self, ih]
        rfl
      · rw [withFate_cons_of_ne ht, withFate_cons_of_ne ht, ih]

theorem withFate_taken_settle_rejected : ∀ l : Ledger α, withFate .taken (settle .rejected l) = withFate .taken l
  | [] => rfl
  | (a, g) :: l => by
    have ih := withFate_taken_settle_rejected l
    unfold settle
    cases g <;> simp_all [withFate]

/-! ## One operation -/

section Runs

variable {cap : Nat} {fits : κ → α → Bool} {l : Ledger α}

theorem held_offer (a : α) :
    held (step cap fits l (.offer a)) = if (held l).length < cap then held l ++ [a] else held l := by
  rw [step, held, withFate_append]
  split
  · rw [withFate_cons_self, withFate_nil]; rfl
  · rw [withFate_cons_of_ne (by simp), withFate_nil, List.append_nil]; rfl

theorem step_take_of_nil (h : held l = []) (k : κ) : step cap fits l (.take k) = l := by
  simp only [step, h]

theorem step_take_of_cons {a : α} {rest : List α} (h : held l = a :: rest) (k : κ) :
    step cap fits l (.take k) = settle (if fits k a then .taken else .rejected) l := by
  simp only [step, h]

theorem step_take_cases (k : κ) :
    step cap fits l (.take k) = l ∨ ∃ f, f ≠ .held ∧ step cap fits l (.take k) = settle f l := by
  cases hheld : held l with
  | nil => exact .inl (step_take_of_nil hheld k)
  | cons a rest => exact .inr ⟨_, by split <;> simp, step_take_of_cons hheld k⟩

theorem held_take (k : κ) : held (step cap fits l (.take k)) = (held l).tail := by
  cases hheld : held l with
  | nil => rw [step_take_of_nil hheld, hheld]; rfl
  | cons a rest => rw [step_take_of_cons hheld, held_settle (by split <;> simp), hheld]

/-- **A step adds the element it offers and forgets none.** -/
theorem map_fst_step (op : Op α κ) : (step cap fits l op).map Prod.fst = l.map Prod.fst ++ op.offered?.toList := by
  cases op with
  | offer a => rw [step, List.map_append]; rfl
  | take k =>
    rw [show (Op.take k : Op α κ).offered? = none from rfl, Option.toList_none, List.append_nil]
    have hcases : step cap fits l (.take k) = l ∨ ∃ f, f ≠ .held ∧ step cap fits l (.take k) = settle f l := step_take_cases k
    rcases hcases with h | ⟨f, -, h⟩
    · rw [h]
    · rw [h, map_fst_settle]
  | probe => exact (List.append_nil _).symm
  | flush => exact (map_fst_flush l).trans (List.append_nil _).symm

theorem ordered_step (h : Ordered l) (op : Op α κ) : Ordered (step cap fits l op) := by
  cases op with
  | offer a =>
    refine List.pairwise_append.2 ⟨h, List.pairwise_singleton _ _, fun x _ y hy _ => ?_⟩
    rw [List.mem_singleton.1 hy]
    dsimp only
    split
    · exact .inl rfl
    · exact .inr rfl
  | take k =>
    have hcases : step cap fits l (.take k) = l ∨ ∃ f, f ≠ .held ∧ step cap fits l (.take k) = settle f l := step_take_cases k
    rcases hcases with hstep | ⟨f, hf, hstep⟩
    · rwa [hstep]
    · rw [hstep]
      exact ordered_settle hf h
  | probe => exact h
  | flush => exact ordered_flush l

/-- **A step takes the element it answers with.** -/
theorem withFate_taken_step (h : Ordered l) (op : Op α κ) :
    withFate .taken (step cap fits l op) = withFate .taken l ++ (answer fits l op).element?.toList := by
  cases op with
  | offer a =>
    rw [step, withFate_append]
    split <;> rfl
  | take k =>
    cases hheld : held l with
    | nil =>
      rw [step_take_of_nil hheld, answer, hheld]
      exact (List.append_nil _).symm
    | cons a rest =>
      rw [step_take_of_cons hheld, answer, hheld]
      dsimp only
      by_cases hfits : fits k a = true
      · rw [if_pos hfits, if_pos hfits]
        exact withFate_taken_settle h hheld
      · rw [if_neg hfits, if_neg hfits, withFate_taken_settle_rejected]
        exact (List.append_nil _).symm
  | probe => exact (List.append_nil _).symm
  | flush => exact (withFate_taken_flush l).trans (List.append_nil _).symm

/-- **Every change of fate has its cause in the step.** -/
theorem caused_of_step {i : Nat} {a : α} {f : Fate} (op : Op α κ) (h : (step cap fits l op)[i]? = some (a, f)) :
    l[i]? = some (a, f) ∨ f = .held ∨ Caused cap fits l i a f op := by
  cases op with
  | offer b =>
    rw [step, List.getElem?_append] at h
    split at h
    · exact .inl h
    · have hi : i - l.length = 0 := by
        have hlt := (List.getElem?_eq_some_iff.1 h).1
        rw [List.length_singleton] at hlt
        omega
      rw [hi, List.getElem?_cons_zero] at h
      by_cases hroom : (held l).length < cap
      · rw [if_pos hroom] at h
        cases h
        exact .inr (.inl rfl)
      · rw [if_neg hroom] at h
        cases h
        exact .inr (.inr (.refused (by omega) (Nat.not_lt.1 hroom)))
  | take k =>
    cases hheld : held l with
    | nil =>
      rw [step_take_of_nil hheld] at h
      exact .inl h
    | cons b rest =>
      rw [step_take_of_cons hheld] at h
      rcases getElem?_settle h with hsame | ⟨rfl, hi, hhead⟩
      · exact .inl hsame
      · obtain rfl : b = a := by simpa [hheld] using hhead
        cases hfits : fits k b with
        | true => exact .inr (.inr (.taken k hi hfits))
        | false => exact .inr (.inr (.rejected k hi hfits))
  | probe => exact .inl h
  | flush =>
    rcases getElem?_flush h with hsame | ⟨rfl, hi⟩
    · exact .inl hsame
    · exact .inr (.inr (.flushed hi))

/-! ## Runs -/

theorem run_concat (ops : List (Op α κ)) (op : Op α κ) :
    run cap fits l (ops ++ [op]) = step cap fits (run cap fits l ops) op := by
  rw [run, List.foldl_append]
  rfl

theorem map_fst_run : ∀ (ops : List (Op α κ)) (l : Ledger α),
    (run cap fits l ops).map Prod.fst = l.map Prod.fst ++ ops.filterMap Op.offered?
  | [], l => (List.append_nil _).symm
  | op :: ops, l => by
    rw [run, List.foldl_cons, ← run, map_fst_run ops, map_fst_step, List.append_assoc, List.filterMap_cons]
    cases op.offered? <;> rfl

/-- **What a run hands out is what it takes**, in the order of the offers. -/
theorem elements_answers : ∀ (ops : List (Op α κ)) {l : Ledger α}, Ordered l →
    withFate .taken (run cap fits l ops) = withFate .taken l ++ (answers cap fits l ops).filterMap Answer.element?
  | [], _, _ => (List.append_nil _).symm
  | op :: ops, l, h => by
    rw [run, List.foldl_cons, ← run, elements_answers ops (ordered_step h op), withFate_taken_step h, List.append_assoc,
      answers, List.filterMap_cons]
    cases (answer fits l op).element? <;> rfl

/-- **From an empty ledger, every fate but `held` was brought about by one operation of the run.** -/
theorem caused_of_run {i : Nat} {a : α} {f : Fate} (hf : f ≠ .held) (ops : List (Op α κ)) :
    (run cap fits [] ops)[i]? = some (a, f) →
      ∃ before op after, ops = before ++ op :: after ∧ Caused cap fits (run cap fits [] before) i a f op := by
  induction ops using List.reverseRecOn with
  | nil => intro h; cases h
  | append_singleton ops op ih =>
    intro h
    rw [run_concat] at h
    rcases caused_of_step op h with hsame | hheld | hcaused
    · obtain ⟨before, op', after, rfl, hc⟩ := ih hsame
      exact ⟨before, op', after ++ [op], by simp, hc⟩
    · exact absurd hheld hf
    · exact ⟨ops, op, [], rfl, hcaused⟩

end Runs

end BoundedFifo
