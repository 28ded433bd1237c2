import Mathlib.Data.Fintype.Card
import SwitchLanPlay.Bytes
import SwitchLanPlay.Runs
import SwitchLanPlay.SlotTable
/-!
# DummySkip — which sessions of a game are intercepted (source/bsd/bsd_bridge_service.cpp)

The first bsd:u session of a process is a dummy that must not be intercepted.  `ShouldMitm` declines it and notes the process
in a table of eight entries; it intercepts the process's later sessions and counts them, and the destructor of the last one
forgets the process, so that its next session is a dummy again.

While the table does not run out of entries the accounting is exact (`accounting_exact`).  An entry is freed by the destructor
of an intercepted session alone: a process that opened only its dummy keeps its entry for good, and eight of them leave no
entry for the next one (`dummies_fill_table`).
-/
namespace Slp

/-- `live` counts open sessions, of which the server has 48 at most. -/
structure DummySkipEntry where
  pid : UInt64 := 0
  live : Nat := 0
  dummySkipped : Bool := false
deriving DecidableEq

def maxDummySkipEntries : Nat := 8

/-- `g_dummy_skip`. -/
abbrev DummySkip := Fin maxDummySkipEntries → DummySkipEntry

def ldnMitmProgramId : UInt64 := 0x4200000000000010

namespace DummySkip

def isFree (e : DummySkipEntry) : Bool := e.pid == 0 && !e.dummySkipped && e.live == 0

/-- The search of `ShouldMitm`: the entry of the process, or the first free one. -/
def findEntry (t : DummySkip) (pid : UInt64) : Option (Fin maxDummySkipEntries) :=
  match SlotTable.first (fun e => e.pid == pid) t with
  | some k => some k
  | none => SlotTable.first isFree t

/-- `ShouldMitm` for an application. -/
def query (t : DummySkip) (pid : UInt64) : DummySkip × Bool :=
  match t.findEntry pid with
  | none => (t, false)
  | some k =>
    let e := if (t k).pid == 0 then { t k with pid := pid } else t k
    if !e.dummySkipped then (Function.update t k { e with dummySkipped := true }, false)
    else (Function.update t k { e with live := e.live + 1 }, true)

/-- `ShouldMitm`; `isApplicationId` is `ncm::IsApplicationId`. -/
def shouldMitm (isApplicationId : UInt64 → Bool) (t : DummySkip) (programId pid : UInt64) : DummySkip × Bool :=
  if programId == ldnMitmProgramId then (t, true)
  else if !isApplicationId programId then (t, false)
  else t.query pid

/-- The destructor of an intercepted session. -/
def release (t : DummySkip) (pid : UInt64) : DummySkip :=
  match SlotTable.first (fun e => e.pid == pid && decide (0 < e.live)) t with
  | none => t
  | some k =>
    let e := { t k with live := (t k).live - 1 }
    Function.update t k (if e.live = 0 then { e with pid := 0, dummySkipped := false } else e)

/-! ### The table as a map from processes to entries -/

/-- The entry of a process. -/
def entryOf (t : DummySkip) (pid : UInt64) : Option DummySkipEntry := SlotTable.lookup (fun e => e.pid == pid) t

/-- A process has one entry at most, and an entry without a process is blank. -/
structure WF (t : DummySkip) : Prop where
  solo : ∀ pid, pid ≠ 0 → SlotTable.Solo (fun e => e.pid == pid) t
  blank : ∀ k, (t k).pid = 0 → t k = {}

variable {t : DummySkip} {pid : UInt64} {k : Fin maxDummySkipEntries} {e : DummySkipEntry}

theorem entryOf_pid (h : t.entryOf pid = some e) : e.pid = pid := by
  obtain ⟨k, hk, rfl⟩ := SlotTable.lookup_eq_some h
  simpa using SlotTable.apply_of_first hk

theorem WF.isFree_iff (h : t.WF) (k : Fin maxDummySkipEntries) : isFree (t k) = true ↔ (t k).pid = 0 := by
  constructor
  · intro hf
    simp only [isFree, Bool.and_eq_true, beq_iff_eq] at hf
    exact hf.1.1
  · intro hk
    rw [h.blank k hk]
    rfl

/-- **A write of an entry of the process, or of a blank one, over its entry or over a free one changes what the process has,
and nothing else.** -/
theorem WF.write (h : t.WF) (hp : pid ≠ 0) (hk : (t k).pid = pid ∨ ((t k).pid = 0 ∧ t.entryOf pid = none))
    (he : e.pid = pid ∨ e = {}) :
    DummySkip.WF (Function.update t k e) ∧
      DummySkip.entryOf (Function.update t k e) pid = (if e.pid = pid then some e else none) ∧
      ∀ q, q ≠ 0 → q ≠ pid → DummySkip.entryOf (Function.update t k e) q = t.entryOf q := by
  have hmiss : ∀ q, q ≠ 0 → q ≠ pid → ((t k).pid == q) = false ∧ (e.pid == q) = false := by
    intro q hq hne
    refine ⟨beq_eq_false_iff_ne.2 ?_, beq_eq_false_iff_ne.2 ?_⟩
    · rcases hk with hk | hk
      · rw [hk]; exact hne.symm
      · rw [hk.1]; exact hq.symm
    · rcases he with he | he
      · rw [he]; exact hne.symm
      · rw [he]; exact hq.symm
  refine ⟨⟨fun q hq => ?_, fun j hj => ?_⟩, ?_, fun q hq hne => ?_⟩
  · by_cases hne : q = pid
    · subst hne
      rcases hk with hk | hk
      · exact SlotTable.solo_update_hit (h.solo q hq) (by simpa using hk)
      · exact SlotTable.solo_update_new hk.2
    · exact SlotTable.solo_update_miss (h.solo q hq) (hmiss q hq hne).2
  · by_cases hjk : j = k
    · subst hjk
      rw [Function.update_self] at hj ⊢
      rcases he with he | he
      · exact absurd (he.symm.trans hj) hp
      · exact he
    · rw [Function.update_of_ne hjk] at hj ⊢
      exact h.blank j hj
  · rcases hk with hk | hk
    · rw [entryOf, SlotTable.lookup_update_hit (h.solo pid hp) (by simpa using hk)]
      simp only [beq_iff_eq]
    · rcases he with he | he
      · rw [entryOf, SlotTable.lookup_update_new hk.2 (by simpa using he), if_pos he]
      · have hno : (e.pid == pid) = false := by rw [he]; exact beq_eq_false_iff_ne.2 hp.symm
        have hold : ((t k).pid == pid) = false := by rw [hk.1]; exact beq_eq_false_iff_ne.2 hp.symm
        have hsame := SlotTable.lookup_update_miss (p := fun e => e.pid == pid) (t := t) (k := k) (a := e) hold hno
        rw [if_neg (by simpa using hno), entryOf, hsame]
        exact hk.2
  · exact SlotTable.lookup_update_miss (hmiss q hq hne).1 (hmiss q hq hne).2

/-! ### What the operations do to the map -/

theorem first_of_entryOf (h : t.entryOf pid = some e) :
    ∃ k, SlotTable.first (fun e => e.pid == pid) t = some k ∧ t k = e := SlotTable.lookup_eq_some h

theorem first_of_entryOf_none (h : t.entryOf pid = none) : SlotTable.first (fun e => e.pid == pid) t = none :=
  SlotTable.first_eq_none_iff.2 (SlotTable.lookup_eq_none_iff.1 h)

theorem findEntry_of_entryOf (h : t.entryOf pid = some e) : ∃ k, t.findEntry pid = some k ∧ t k = e := by
  obtain ⟨k, hk, hke⟩ := first_of_entryOf h
  have hfind : t.findEntry pid = some k := by
    unfold findEntry
    rw [hk]
  exact ⟨k, hfind, hke⟩

theorem findEntry_of_none (h : t.entryOf pid = none) : t.findEntry pid = SlotTable.first isFree t := by
  unfold findEntry
  rw [first_of_entryOf_none h]

/-- **A process whose first session has been declined has its next one intercepted, and counted.** -/
theorem query_known (hwf : t.WF) (hp : pid ≠ 0) (h : t.entryOf pid = some e) (hd : e.dummySkipped = true) :
    (t.query pid).2 = true ∧ (t.query pid).1.WF ∧
      (t.query pid).1.entryOf pid = some { e with live := e.live + 1 } ∧
      ∀ q, q ≠ 0 → q ≠ pid → (t.query pid).1.entryOf q = t.entryOf q := by
  obtain ⟨k, hk, rfl⟩ := findEntry_of_entryOf h
  have hpid : (t k).pid = pid := entryOf_pid h
  have hne : ((t k).pid == 0) = false := by rw [hpid]; exact beq_eq_false_iff_ne.2 hp
  have hq : t.query pid = (Function.update t k { t k with live := (t k).live + 1 }, true) := by
    unfold query
    rw [hk]
    simp [hne, hd]
  rw [hq]
  obtain ⟨h₁, h₂, h₃⟩ := hwf.write (e := { t k with live := (t k).live + 1 }) hp (.inl hpid) (.inl hpid)
  exact ⟨rfl, h₁, by rw [h₂, if_pos hpid], h₃⟩

/-- **The first session of a process is declined, and the process entered if there is an entry for it.** -/
theorem query_new (hwf : t.WF) (hp : pid ≠ 0) (h : t.entryOf pid = none) (hk : t.findEntry pid = some k) :
    (t.query pid).2 = false ∧ (t.query pid).1.WF ∧ (t.query pid).1.entryOf pid = some ⟨pid, 0, true⟩ ∧
      ∀ q, q ≠ 0 → q ≠ pid → (t.query pid).1.entryOf q = t.entryOf q := by
  have hz : (t k).pid = 0 := by
    rw [findEntry_of_none h] at hk
    exact (hwf.isFree_iff k).1 (SlotTable.apply_of_first hk)
  have hq : t.query pid = (Function.update t k ⟨pid, 0, true⟩, false) := by
    unfold query
    rw [hk]
    simp [hwf.blank k hz]
  rw [hq]
  obtain ⟨h₁, h₂, h₃⟩ := hwf.write (e := ⟨pid, 0, true⟩) hp (.inr ⟨hz, h⟩) (.inl rfl)
  exact ⟨rfl, h₁, by rw [h₂, if_pos rfl], h₃⟩

/-- **The last session of a process frees its entry, an earlier one is counted off.** -/
theorem release_known (hwf : t.WF) (hp : pid ≠ 0) (h : t.entryOf pid = some e) (hl : 0 < e.live) :
    (t.release pid).WF ∧
      (t.release pid).entryOf pid = (if e.live = 1 then none else some { e with live := e.live - 1 }) ∧
      ∀ q, q ≠ 0 → q ≠ pid → (t.release pid).entryOf q = t.entryOf q := by
  obtain ⟨k, hk, rfl⟩ := first_of_entryOf h
  have hpid : (t k).pid = pid := entryOf_pid h
  have hfirst : SlotTable.first (fun e => e.pid == pid && decide (0 < e.live)) t = some k := by
    refine SlotTable.first_of_unique (by simpa using ⟨hpid, hl⟩) (fun j hj => ?_)
    simp only [Bool.and_eq_true] at hj
    exact hwf.solo pid hp j k hj.1 (by simpa using hpid)
  by_cases hone : (t k).live = 1
  · have hr : t.release pid = Function.update t k {} := by
      unfold release
      rw [hfirst]
      simp [hone]
    rw [hr, if_pos hone]
    obtain ⟨h₁, h₂, h₃⟩ := hwf.write (e := {}) hp (.inl hpid) (.inr rfl)
    exact ⟨h₁, by rw [h₂, if_neg hp.symm], h₃⟩
  · have hr : t.release pid = Function.update t k { t k with live := (t k).live - 1 } := by
      have hne : (t k).live - 1 ≠ 0 := by omega
      unfold release
      rw [hfirst]
      simp [hne]
    rw [hr, if_neg hone]
    obtain ⟨h₁, h₂, h₃⟩ := hwf.write (e := { t k with live := (t k).live - 1 }) hp (.inl hpid) (.inl hpid)
    exact ⟨h₁, by rw [h₂, if_pos hpid], h₃⟩

end DummySkip

/-! ## Sessions -/

/-- The table, and beside it the processes of the open intercepted and of the open declined sessions, and those that are in a
burst: they opened a first session and the last of their intercepted ones has not been closed since. -/
structure Sessions where
  table : DummySkip := fun _ => {}
  intercepted : List UInt64 := []
  declined : List UInt64 := []
  bursts : List UInt64 := []

namespace Sessions

inductive Op where
  -- a process opens a session
  | query (programId pid : UInt64)
  -- a process closes a session that was declined, which the bridge does not see
  | closeDeclined (pid : UInt64)
  -- an intercepted session is destroyed
  | destroy (pid : UInt64)
deriving DecidableEq

/-- The process of the session. -/
def Op.pid : Op → UInt64
  | .query _ pid => pid
  | .closeDeclined pid => pid
  | .destroy pid => pid

section Step

variable (isApplicationId : UInt64 → Bool)

def query (S : Sessions) (programId pid : UInt64) : Sessions :=
  let out := S.table.shouldMitm isApplicationId programId pid
  { table := out.1
    intercepted := if out.2 then pid :: S.intercepted else S.intercepted
    declined := if out.2 then S.declined else pid :: S.declined
    bursts := if pid ∈ S.bursts then S.bursts else pid :: S.bursts }

def destroy (S : Sessions) (pid : UInt64) : Sessions :=
  { S with
    table := S.table.release pid
    intercepted := S.intercepted.erase pid
    bursts := if S.intercepted.count pid = 1 then S.bursts.erase pid else S.bursts }

def step (S : Sessions) : Op → Sessions
  | .query programId pid => S.query isApplicationId programId pid
  | .closeDeclined pid => { S with declined := S.declined.erase pid }
  | .destroy pid => S.destroy pid

/-- The program of an application. -/
def Application (programId : UInt64) : Prop := isApplicationId programId = true ∧ programId ≠ ldnMitmProgramId

instance (programId : UInt64) : Decidable (Application isApplicationId programId) := by
  unfold Application
  infer_instance

/-- Sessions are opened by applications, and only open ones are closed. -/
def May (S : Sessions) : Op → Prop
  | .query programId pid => Application isApplicationId programId ∧ pid ≠ 0
  | .closeDeclined pid => pid ∈ S.declined
  | .destroy pid => pid ∈ S.intercepted

instance (S : Sessions) : ∀ op : Op, Decidable (S.May isApplicationId op)
  | .query programId pid => inferInstanceAs (Decidable (Application isApplicationId programId ∧ pid ≠ 0))
  | .closeDeclined pid => inferInstanceAs (Decidable (pid ∈ S.declined))
  | .destroy pid => inferInstanceAs (Decidable (pid ∈ S.intercepted))

/-- The table does not run out of entries. -/
def HasEntry (S : Sessions) : Op → Prop
  | .query _ pid => (S.table.findEntry pid).isSome = true
  | _ => True

instance (S : Sessions) : ∀ op : Op, Decidable (S.HasEntry op)
  | .query _ pid => inferInstanceAs (Decidable ((S.table.findEntry pid).isSome = true))
  | .closeDeclined _ => .isTrue trivial
  | .destroy _ => .isTrue trivial

/-- The processes in a burst are those with an entry, which counts their open intercepted sessions. -/
structure Inv (S : Sessions) : Prop where
  wf : S.table.WF
  entries : ∀ pid, pid ≠ 0 →
    S.table.entryOf pid = if pid ∈ S.bursts then some ⟨pid, S.intercepted.count pid, true⟩ else none
  counted : ∀ pid ∈ S.intercepted, pid ∈ S.bursts
  nonzero : ∀ pid ∈ S.bursts, pid ≠ 0
  nodup : S.bursts.Nodup

variable {isApplicationId} {S : Sessions} {programId pid : UInt64}

theorem Inv.entryOf_burst (h : Inv S) (hb : pid ∈ S.bursts) :
    S.table.entryOf pid = some ⟨pid, S.intercepted.count pid, true⟩ := by
  rw [h.entries pid (h.nonzero pid hb), if_pos hb]

theorem Inv.entryOf_none (h : Inv S) (hp : pid ≠ 0) (hb : pid ∉ S.bursts) : S.table.entryOf pid = none := by
  rw [h.entries pid hp, if_neg hb]

theorem Inv.count_eq_zero (h : Inv S) (hb : pid ∉ S.bursts) : S.intercepted.count pid = 0 :=
  List.count_eq_zero.2 (fun hm => hb (h.counted pid hm))

theorem shouldMitm_application (t : DummySkip) (ha : Application isApplicationId programId) :
    t.shouldMitm isApplicationId programId pid = t.query pid := by
  have hne : (programId == ldnMitmProgramId) = false := beq_eq_false_iff_ne.2 ha.2
  simp [DummySkip.shouldMitm, hne, ha.1]

/-- **Of a process in a burst the next session is intercepted.** -/
theorem Inv.query_burst (h : Inv S) (ha : Application isApplicationId programId) (hb : pid ∈ S.bursts) :
    (S.table.shouldMitm isApplicationId programId pid).2 = true ∧ Inv (S.query isApplicationId programId pid) := by
  obtain ⟨hans, hwf, hown, hother⟩ := DummySkip.query_known h.wf (h.nonzero pid hb) (h.entryOf_burst hb) rfl
  rw [← shouldMitm_application S.table ha] at hans hwf hown hother
  refine ⟨hans, ?_⟩
  have hq : S.query isApplicationId programId pid =
      { S with table := (S.table.shouldMitm isApplicationId programId pid).1, intercepted := pid :: S.intercepted } := by
    simp [query, hans, hb]
  rw [hq]
  refine ⟨hwf, fun q hq => ?_, fun q hq => ?_, h.nonzero, h.nodup⟩
  · by_cases hqp : q = pid
    · subst hqp
      rw [hown, if_pos hb, List.count_cons_self]
    · rw [hother q hq hqp, h.entries q hq, List.count_cons_of_ne (Ne.symm hqp)]
  · rcases List.mem_cons.1 hq with rfl | hq
    · exact hb
    · exact h.counted q hq

/-- **The first session of a burst is declined, and its process entered.** -/
theorem Inv.query_first (h : Inv S) (ha : Application isApplicationId programId) (hp : pid ≠ 0) (hb : pid ∉ S.bursts)
    (hf : (S.table.findEntry pid).isSome = true) :
    (S.table.shouldMitm isApplicationId programId pid).2 = false ∧ Inv (S.query isApplicationId programId pid) := by
  obtain ⟨k, hk⟩ := Option.isSome_iff_exists.1 hf
  obtain ⟨hans, hwf, hown, hother⟩ := DummySkip.query_new h.wf hp (h.entryOf_none hp hb) hk
  rw [← shouldMitm_application S.table ha] at hans hwf hown hother
  refine ⟨hans, ?_⟩
  have hq : S.query isApplicationId programId pid =
      { S with
        table := (S.table.shouldMitm isApplicationId programId pid).1
        declined := pid :: S.declined
        bursts := pid :: S.bursts } := by
    simp [query, hans, hb]
  rw [hq]
  refine ⟨hwf, fun q hq => ?_, fun q hq => ?_, fun q hq => ?_, List.nodup_cons.2 ⟨hb, h.nodup⟩⟩
  · by_cases hqp : q = pid
    · subst hqp
      rw [hown, if_pos (List.mem_cons_self ..), h.count_eq_zero hb]
    · rw [hother q hq hqp, h.entries q hq]
      simp [hqp]
  · exact List.mem_cons_of_mem _ (h.counted q hq)
  · rcases List.mem_cons.1 hq with rfl | hq
    · exact hp
    · exact h.nonzero q hq

/-- The destructor ends the burst of its own process with the last session. -/
theorem Inv.mem_bursts_destroy (h : Inv S) {q : UInt64} :
    q ∈ (S.destroy pid).bursts ↔ q ∈ S.bursts ∧ ¬ (q = pid ∧ S.intercepted.count pid = 1) := by
  simp only [Sessions.destroy]
  split
  · rename_i hone
    rw [h.nodup.mem_erase_iff, and_comm]
    simp [hone]
  · rename_i hone
    simp [hone]

/-- **The destruction of the last intercepted session ends the burst.** -/
theorem Inv.destroy (h : Inv S) (hm : pid ∈ S.intercepted) : Inv (S.destroy pid) := by
  have hb := h.counted pid hm
  have hpos : 0 < S.intercepted.count pid := List.count_pos_iff.2 hm
  obtain ⟨hwf, hown, hother⟩ := DummySkip.release_known h.wf (h.nonzero pid hb) (h.entryOf_burst hb) hpos
  have hcount : (S.intercepted.erase pid).count pid = S.intercepted.count pid - 1 := List.count_erase_self ..
  have hkeep : ∀ q, q ≠ pid → (q ∈ (S.destroy pid).bursts ↔ q ∈ S.bursts) := by
    intro q hqp
    rw [h.mem_bursts_destroy]
    simp [hqp]
  have hself : pid ∈ (S.destroy pid).bursts ↔ S.intercepted.count pid ≠ 1 := by
    rw [h.mem_bursts_destroy]
    simp [hb]
  refine ⟨hwf, fun q hq => ?_, fun q hq => ?_, fun q hq => h.nonzero q (h.mem_bursts_destroy.1 hq).1, ?_⟩
  · by_cases hqp : q = pid
    · subst hqp
      show (S.table.release q).entryOf q =
        if q ∈ (S.destroy q).bursts then some ⟨q, (S.intercepted.erase q).count q, true⟩ else none
      rw [hown, hcount]
      simp only [hself, ne_eq, ite_not]
    · show (S.table.release pid).entryOf q =
        if q ∈ (S.destroy pid).bursts then some ⟨q, (S.intercepted.erase pid).count q, true⟩ else none
      rw [hother q hq hqp, h.entries q hq, List.count_erase_of_ne hqp]
      simp only [hkeep q hqp]
  · by_cases hqp : q = pid
    · subst hqp
      have hin : 0 < (S.intercepted.erase q).count q := List.count_pos_iff.2 hq
      exact hself.2 (by omega)
    · exact (hkeep q hqp).2 (h.counted q (List.mem_of_mem_erase hq))
  · simp only [Sessions.destroy]
    split
    · exact h.nodup.erase pid
    · exact h.nodup

theorem inv_step {op : Op} (h : Inv S) (hmay : May isApplicationId S op) (hhas : HasEntry S op) :
    Inv (step isApplicationId S op) := by
  cases op with
  | query programId pid =>
    by_cases hb : pid ∈ S.bursts
    · exact (h.query_burst hmay.1 hb).2
    · exact (h.query_first hmay.1 hmay.2 hb hhas).2
  | closeDeclined pid => exact ⟨h.wf, h.entries, h.counted, h.nonzero, h.nodup⟩
  | destroy pid => exact h.destroy hmay

theorem inv_start : Inv {} := by
  have hnone : ∀ pid : UInt64, pid ≠ 0 → ∀ k, ((({} : Sessions).table k).pid == pid) = false :=
    fun pid hp k => beq_eq_false_iff_ne.2 (Ne.symm hp)
  refine ⟨⟨fun pid hp j k hj => ?_, fun k _ => rfl⟩, fun pid hp => ?_, ?_, ?_, List.nodup_nil⟩
  · exact absurd hj (by simpa using hp.symm)
  · exact SlotTable.lookup_eq_none_iff.2 (hnone pid hp)
  · intro pid hm
    cases hm
  · intro pid hm
    cases hm

/-! ## The accounting -/

variable (isApplicationId) in
/-- What the table says of a state: the entry of a process counts its open intercepted sessions, decides about its next one,
and comes and goes with its own sessions alone. -/
structure Exact (S : Sessions) : Prop where
  single : ∀ j k, (S.table j).pid ≠ 0 → (S.table j).pid = (S.table k).pid → j = k
  live_eq : ∀ k, (S.table k).pid ≠ 0 → (S.table k).live = S.intercepted.count (S.table k).pid
  declined_iff : ∀ programId pid, May isApplicationId S (.query programId pid) → HasEntry S (.query programId pid) →
    ((S.table.shouldMitm isApplicationId programId pid).2 = false ↔ ∀ k, (S.table k).pid ≠ pid)
  freed_iff : ∀ op, May isApplicationId S op → HasEntry S op → ∀ k, (S.table k).pid ≠ 0 →
    ((∀ j, ((step isApplicationId S op).table j).pid ≠ (S.table k).pid) ↔
      op = .destroy (S.table k).pid ∧ S.intercepted.count (S.table k).pid = 1)
  independent : ∀ op, May isApplicationId S op → HasEntry S op → ∀ pid, pid ≠ 0 → op.pid ≠ pid →
    (step isApplicationId S op).table.entryOf pid = S.table.entryOf pid

theorem entryOf_eq_none_iff {t : DummySkip} : t.entryOf pid = none ↔ ∀ k, (t k).pid ≠ pid := by
  rw [DummySkip.entryOf, SlotTable.lookup_eq_none_iff]
  simp only [beq_eq_false_iff_ne]

theorem Inv.slot (h : Inv S) {k : Fin maxDummySkipEntries} (hk : (S.table k).pid ≠ 0) :
    (S.table k).pid ∈ S.bursts ∧ S.table k = ⟨(S.table k).pid, S.intercepted.count (S.table k).pid, true⟩ := by
  have hl : S.table.entryOf (S.table k).pid = some (S.table k) :=
    SlotTable.lookup_of_solo (h.wf.solo _ hk) (beq_self_eq_true _)
  rw [h.entries _ hk] at hl
  split at hl
  · rename_i hb
    exact ⟨hb, (Option.some.inj hl).symm⟩
  · cases hl

theorem Inv.bursts_step (isApplicationId : UInt64 → Bool) (h : Inv S) (hb : pid ∈ S.bursts) (op : Op) :
    pid ∉ (step isApplicationId S op).bursts ↔ op = .destroy pid ∧ S.intercepted.count pid = 1 := by
  cases op with
  | query programId q =>
    have hin : pid ∈ (S.query isApplicationId programId q).bursts := by
      simp only [query]
      split
      · exact hb
      · exact List.mem_cons_of_mem _ hb
    simp [step, hin]
  | closeDeclined q => simp [step, hb]
  | destroy q =>
    show pid ∉ (S.destroy q).bursts ↔ _
    rw [h.mem_bursts_destroy, not_and_not_right]
    constructor
    · intro hn
      obtain ⟨rfl, hone⟩ := hn hb
      exact ⟨rfl, hone⟩
    · rintro ⟨⟨⟩, hone⟩ -
      exact ⟨rfl, hone⟩

theorem step_other (isApplicationId : UInt64 → Bool) (S : Sessions) {op : Op} (hne : op.pid ≠ pid) :
    (pid ∈ (step isApplicationId S op).bursts ↔ pid ∈ S.bursts) ∧
      (step isApplicationId S op).intercepted.count pid = S.intercepted.count pid := by
  cases op with
  | query programId q =>
    have hq : q ≠ pid := hne
    simp only [step, query]
    constructor
    · split
      · exact Iff.rfl
      · simp [hq.symm]
    · split
      · rw [List.count_cons_of_ne hq]
      · rfl
  | closeDeclined q => exact ⟨Iff.rfl, rfl⟩
  | destroy q =>
    have hq : q ≠ pid := hne
    simp only [step, destroy]
    refine ⟨?_, List.count_erase_of_ne hq.symm⟩
    split
    · exact List.mem_erase_of_ne hq.symm
    · exact Iff.rfl

theorem Inv.exact (h : Inv S) : Exact isApplicationId S := by
  refine ⟨fun j k hj hjk => ?_, fun k hk => ?_, fun programId pid hmay hhas => ?_, fun op hmay hhas k hk => ?_,
    fun op hmay hhas pid hp hne => ?_⟩
  · exact h.wf.solo _ hj j k (beq_self_eq_true _) (by simpa using hjk.symm)
  · rw [(h.slot hk).2]
  · rw [← entryOf_eq_none_iff]
    by_cases hb : pid ∈ S.bursts
    · simp [(h.query_burst hmay.1 hb).1, h.entryOf_burst hb]
    · simp [(h.query_first hmay.1 hmay.2 hb hhas).1, h.entryOf_none hmay.2 hb]
  · have hnext := inv_step h hmay hhas
    rw [← entryOf_eq_none_iff, hnext.entries _ hk, ← h.bursts_step isApplicationId (h.slot hk).1 op]
    split <;> simp_all
  · obtain ⟨hb, hc⟩ := step_other isApplicationId S hne
    rw [(inv_step h hmay hhas).entries pid hp, h.entries pid hp, hc]
    simp only [hb]

theorem inv_of_reachable
    (h : Runs.Reachable (step isApplicationId) (fun S op => May isApplicationId S op ∧ HasEntry S op) {} S) : Inv S :=
  h.keeps inv_start (fun _ _ hinv hok => inv_step hinv hok.1 hok.2)

/-- **While the table does not run out of entries the accounting is exact.** -/
theorem accounting_exact
    (h : Runs.Reachable (step isApplicationId) (fun S op => May isApplicationId S op ∧ HasEntry S op) {} S) :
    Exact isApplicationId S := (inv_of_reachable h).exact

end Step

/-- `ncm::IsApplicationId`. -/
def isApplicationIdOf (programId : UInt64) : Bool :=
  decide (0x0100000000010000 ≤ programId ∧ programId ≤ 0x01ffffffffffffff)

/-- Two processes, the first of which ends its burst and begins another. -/
def twoGames : List Op :=
  [.query 0x0100152000022000 81, .query 0x0100152000022000 81, .query 0x0100152000022000 82,
    .query 0x0100152000022000 81, .query 0x0100152000022000 82, .destroy 81, .destroy 81,
    .query 0x0100152000022000 81, .query 0x0100152000022000 81]

theorem accounting_exact_twoGames :
    Exact isApplicationIdOf (Runs.run (step isApplicationIdOf) {} twoGames) :=
  accounting_exact (Runs.reachable_run twoGames .init (by decide))

/-! ## The entries that are never freed -/

section Leak

variable {isApplicationId : UInt64 → Bool} {S : Sessions} {programId pid : UInt64}

/-- The processes that have a session open. -/
def openProcesses (S : Sessions) : Nat := (S.declined ++ S.intercepted).dedup.length

/-- While fewer than eight processes have a session open, the second session of a burst is intercepted, and there is an entry
for the process of the first. -/
def Intercepts (isApplicationId : UInt64 → Bool) (S : Sessions) (programId pid : UInt64) : Prop :=
  S.openProcesses < maxDummySkipEntries →
    (pid ∈ S.bursts → (S.table.shouldMitm isApplicationId programId pid).2 = true) ∧
      (pid ∉ S.bursts → (S.table.findEntry pid).isSome = true)

instance : Decidable (Intercepts isApplicationId S programId pid) := by
  unfold Intercepts
  infer_instance

/-- A burst begins only while fewer than eight processes are in one, those included whose dummy was their last session. -/
def BurstLeft (S : Sessions) : Op → Prop
  | .query _ pid => pid ∉ S.bursts → S.bursts.length < maxDummySkipEntries
  | _ => True

instance (S : Sessions) : ∀ op : Op, Decidable (S.BurstLeft op)
  | .query _ pid => inferInstanceAs (Decidable (pid ∉ S.bursts → S.bursts.length < maxDummySkipEntries))
  | .closeDeclined _ => .isTrue trivial
  | .destroy _ => .isTrue trivial

/-- **The table has an entry left as long as fewer than eight processes are in a burst.** -/
theorem Inv.findEntry_iff (h : Inv S) (hp : pid ≠ 0) (hb : pid ∉ S.bursts) :
    (S.table.findEntry pid).isSome = true ↔ S.bursts.length < maxDummySkipEntries := by
  have hcard : S.bursts.toFinset.card = S.bursts.length := List.toFinset_card_of_nodup h.nodup
  have hmem : ∀ q, q ≠ 0 → (q ∈ S.bursts ↔ ∃ k, (S.table k).pid = q) := by
    intro q hq
    constructor
    · intro hqb
      obtain ⟨k, -, hk⟩ := DummySkip.first_of_entryOf (h.entryOf_burst hqb)
      exact ⟨k, by rw [hk]⟩
    · rintro ⟨k, rfl⟩
      exact (h.slot hq).1
  rw [DummySkip.findEntry_of_none (h.entryOf_none hp hb), ← hcard]
  constructor
  · intro hf
    obtain ⟨k, hk⟩ := Option.isSome_iff_exists.1 hf
    have hz : (S.table k).pid = 0 := (h.wf.isFree_iff k).1 (SlotTable.apply_of_first hk)
    -- the pids of the table are those of the bursts and zero
    have hss : S.bursts.toFinset ⊂ Finset.univ.image (fun k => (S.table k).pid) := by
      refine (Finset.ssubset_iff_of_subset (fun q hq => ?_)).2 ⟨0, ?_, ?_⟩
      · have hqb := List.mem_toFinset.1 hq
        obtain ⟨j, hj⟩ := (hmem q (h.nonzero q hqb)).1 hqb
        exact Finset.mem_image.2 ⟨j, Finset.mem_univ j, hj⟩
      · exact Finset.mem_image.2 ⟨k, Finset.mem_univ k, hz⟩
      · exact fun h0 => h.nonzero 0 (List.mem_toFinset.1 h0) rfl
    calc S.bursts.toFinset.card < (Finset.univ.image (fun k => (S.table k).pid)).card := Finset.card_lt_card hss
      _ ≤ Fintype.card (Fin maxDummySkipEntries) := Finset.card_image_le
      _ = maxDummySkipEntries := Fintype.card_fin _
  · intro hlt
    by_contra hnone
    have hfull : ∀ k, (S.table k).pid ≠ 0 := by
      intro k hz
      have hfree := SlotTable.first_eq_none_iff.1 (Option.not_isSome_iff_eq_none.1 hnone) k
      rw [(h.wf.isFree_iff k).2 hz] at hfree
      cases hfree
    have hinj : Function.Injective (fun k => (S.table k).pid) :=
      fun j k hjk => h.wf.solo _ (hfull j) j k (beq_self_eq_true _) (by simpa using hjk.symm)
    have hsub : Finset.univ.image (fun k => (S.table k).pid) ⊆ S.bursts.toFinset := by
      intro q hq
      obtain ⟨k, -, rfl⟩ := Finset.mem_image.1 hq
      exact List.mem_toFinset.2 (h.slot (hfull k)).1
    have hle := Finset.card_le_card hsub
    rw [Finset.card_image_of_injective _ hinj, Finset.card_univ, Fintype.card_fin] at hle
    omega

theorem inv_of_burstLeft
    (h : Runs.Reachable (step isApplicationId) (fun S op => May isApplicationId S op ∧ BurstLeft S op) {} S) : Inv S := by
  refine h.keeps inv_start (fun S op hinv hok => inv_step hinv hok.1 ?_)
  cases op with
  | query programId pid =>
    by_cases hb : pid ∈ S.bursts
    · obtain ⟨k, hk, -⟩ := DummySkip.findEntry_of_entryOf (hinv.entryOf_burst hb)
      simp only [HasEntry, hk, Option.isSome_some]
    · exact (hinv.findEntry_iff hok.1.2 hb).2 (hok.2 hb)
  | closeDeclined pid => trivial
  | destroy pid => trivial

/-- **As long as bursts begin with fewer than eight processes in one, the second session of every burst is intercepted**, and
a burst that begins otherwise finds no entry. -/
theorem intercepts_iff
    (h : Runs.Reachable (step isApplicationId) (fun S op => May isApplicationId S op ∧ BurstLeft S op) {} S)
    (hmay : May isApplicationId S (.query programId pid)) :
    Intercepts isApplicationId S programId pid ↔
      (S.openProcesses < maxDummySkipEntries → BurstLeft S (.query programId pid)) := by
  have hinv := inv_of_burstLeft h
  constructor
  · intro hi ho hb
    exact (hinv.findEntry_iff hmay.2 hb).1 ((hi ho).2 hb)
  · intro hleft ho
    exact ⟨fun hb => (hinv.query_burst hmay.1 hb).1, fun hb => (hinv.findEntry_iff hmay.2 hb).2 (hleft ho hb)⟩

theorem intercepts_iff_twoGames :
    Intercepts isApplicationIdOf (Runs.run (step isApplicationIdOf) {} twoGames) 0x0100152000022000 82 ↔
      (openProcesses (Runs.run (step isApplicationIdOf) {} twoGames) < maxDummySkipEntries →
        BurstLeft (Runs.run (step isApplicationIdOf) {} twoGames) (.query 0x0100152000022000 82)) :=
  intercepts_iff (Runs.reachable_run twoGames .init (by decide)) ⟨by decide, by decide⟩

/-- Eight processes that open their dummy only, one after the other, and a ninth. -/
def eightDummies : List Op :=
  [81, 82, 83, 84, 85, 86, 87, 88].flatMap (fun pid => [Op.query 0x0100152000022000 pid, .closeDeclined pid]) ++
    [.query 0x0100152000022000 89]

/-- **The ninth process has the only session open, and its second one is declined.** -/
theorem dummies_fill_table :
    Runs.AllOk (step isApplicationIdOf) (May isApplicationIdOf) {} eightDummies ∧
      openProcesses (Runs.run (step isApplicationIdOf) {} eightDummies) = 1 ∧
      ¬Intercepts isApplicationIdOf (Runs.run (step isApplicationIdOf) {} eightDummies) 0x0100152000022000 89 := by
  decide

end Leak

end Sessions
end Slp
