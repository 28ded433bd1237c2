import Mathlib.Data.Finset.Card
import Mathlib.Data.Int.Basic
import SwitchLanPlay.Runs
import SwitchLanPlay.Service
/-!
# FdTable — the types of an instance's sockets (BsdBridgeService::TrackFd, UntrackFd, GetTrackedType)

The table is to be a map from fds to types, `FdTypes`.  It is one as long as every tracked fd finds a slot and the lowest free
slot has the type -1 (`fdTable_iff`): TrackFd takes the first free slot also when a later one holds the fd, so an fd may
occupy two slots, and UntrackFd leaves a slot's type behind, which GetTrackedType(-1) returns.  So with the types of sockets it
is one as long as no tracked fd is untracked and no new fd comes when all slots are taken: the table then has no gap (`Packed`).
-/
namespace Slp

open SlotTable (first first_eq_some_iff first_eq_none_iff)

inductive FdCall where
  | trackFd (fd type : Int)
  | untrackFd (fd : Int)

/-- The fds that are tracked and their types. -/
structure FdTypes where
  fds : Finset Int
  type : Int → Int
  nonneg : ∀ fd ∈ fds, 0 ≤ fd
  untracked : ∀ fd, fd ∉ fds → type fd = -1

namespace FdTypes

theorem ext {m m' : FdTypes} (hf : m.fds = m'.fds) (ht : m.type = m'.type) : m = m' := by
  cases m
  cases m'
  subst hf ht
  rfl

theorem type_of_neg (m : FdTypes) {fd : Int} (h : fd < 0) : m.type fd = -1 :=
  m.untracked fd fun hm => absurd (m.nonneg fd hm) (by omega)

theorem no_fds (fd : Int) : fd ∈ (∅ : Finset Int) → 0 ≤ fd := fun h => absurd h (Finset.notMem_empty fd)

def empty : FdTypes := ⟨∅, fun _ => -1, no_fds, fun _ _ => rfl⟩

theorem insert_nonneg (m : FdTypes) {fd : Int} (h : ¬ fd < 0) : ∀ x ∈ insert fd m.fds, 0 ≤ x := by
  intro x hx
  rcases Finset.mem_insert.1 hx with rfl | hx
  · omega
  · exact m.nonneg x hx

theorem insert_untracked (m : FdTypes) (fd type : Int) :
    ∀ x, x ∉ insert fd m.fds → Function.update m.type fd type x = -1 := by
  intro x hx
  rw [Finset.mem_insert, not_or] at hx
  rw [Function.update_of_ne hx.1]
  exact m.untracked x hx.2

theorem erase_nonneg (m : FdTypes) (fd : Int) : ∀ x ∈ m.fds.erase fd, 0 ≤ x :=
  fun x hx => m.nonneg x (Finset.mem_of_mem_erase hx)

theorem erase_untracked (m : FdTypes) (fd : Int) :
    ∀ x, x ∉ m.fds.erase fd → Function.update m.type fd (-1) x = -1 := by
  intro x hx
  by_cases he : x = fd
  · rw [he, Function.update_self]
  · rw [Function.update_of_ne he]
    exact m.untracked x fun hm => hx (Finset.mem_erase.2 ⟨he, hm⟩)

def call (m : FdTypes) : FdCall → FdTypes
  | .trackFd fd type =>
    if h : fd < 0 then m
    else ⟨insert fd m.fds, Function.update m.type fd type, m.insert_nonneg h, m.insert_untracked fd type⟩
  | .untrackFd fd => ⟨m.fds.erase fd, Function.update m.type fd (-1), m.erase_nonneg fd, m.erase_untracked fd⟩

end FdTypes

namespace Instance

def fdCall (s : Instance) : FdCall → Instance
  | .trackFd fd type => s.trackFd fd type
  | .untrackFd fd => s.untrackFd fd

/-! ## What one call does to the answers -/

/-- The slot that is free or holds `fd`, the first of them. -/
def slotFor (s : Instance) (fd : Int) : Option (Fin maxTrackedFds) := first (fun x => x == -1 || x == fd) s.trackedFd

/-- The first free slot once slot `k` holds `fd`. -/
def freeBesides (s : Instance) (k : Fin maxTrackedFds) (fd : Int) : Option (Fin maxTrackedFds) :=
  first (fun x => x == -1) (Function.update s.trackedFd k fd)

theorem getTrackedType_of_none {s : Instance} {fd : Int} (h : ∀ k, s.trackedFd k ≠ fd) : s.getTrackedType fd = -1 := by
  have hnone : first (fun x => x == fd) s.trackedFd = none := by
    rw [first_eq_none_iff]
    intro k
    simpa using h k
  unfold getTrackedType
  rw [hnone]

theorem getTrackedType_of_first {s : Instance} {fd : Int} {k : Fin maxTrackedFds} (hk : s.trackedFd k = fd)
    (hlt : ∀ j, j < k → s.trackedFd j ≠ fd) : s.getTrackedType fd = s.trackedType k := by
  have hfirst : first (fun x => x == fd) s.trackedFd = some k := by
    rw [first_eq_some_iff]
    exact ⟨by simpa using hk, fun j hj => by simpa using hlt j hj⟩
  unfold getTrackedType
  rw [hfirst]

/-- **Whatever one call leaves of the slots of an fd, it leaves of the answer.** -/
theorem getTrackedType_congr {s s' : Instance} {fd : Int} (hfd : ∀ k, s'.trackedFd k = fd ↔ s.trackedFd k = fd)
    (htype : ∀ k, s.trackedFd k = fd → s'.trackedType k = s.trackedType k) :
    s'.getTrackedType fd = s.getTrackedType fd := by
  have hsame : first (fun x => x == fd) s'.trackedFd = first (fun x => x == fd) s.trackedFd :=
    SlotTable.first_congr fun k => Bool.eq_iff_iff.2 (by simpa using hfd k)
  unfold getTrackedType
  rw [hsame]
  cases hf : first (fun x => x == fd) s.trackedFd with
  | none => rfl
  | some k => exact htype k (by simpa using SlotTable.apply_of_first hf)

section TrackFd

variable {s : Instance} {fd : Int} {k : Fin maxTrackedFds}

theorem trackFd_of_slotFor (hfd : ¬ fd < 0) (hk : s.slotFor fd = some k) (type : Int) :
    s.trackFd fd type =
      { s with trackedFd := Function.update s.trackedFd k fd, trackedType := Function.update s.trackedType k type } := by
  rw [slotFor] at hk
  rw [trackFd, if_neg hfd, hk]

theorem trackFd_of_full (hfull : s.slotFor fd = none) (type : Int) : s.trackFd fd type = s := by
  rw [slotFor] at hfull
  rw [trackFd, hfull]
  exact ite_self s

theorem slotFor_some (hk : s.slotFor fd = some k) :
    (s.trackedFd k = -1 ∨ s.trackedFd k = fd) ∧ ∀ j, j < k → s.trackedFd j ≠ -1 ∧ s.trackedFd j ≠ fd := by
  obtain ⟨hat, hlt⟩ := first_eq_some_iff.1 hk
  exact ⟨by simpa using hat, fun j hj => by simpa using hlt j hj⟩

theorem slotFor_none (hnone : s.slotFor fd = none) (j : Fin maxTrackedFds) :
    s.trackedFd j ≠ -1 ∧ s.trackedFd j ≠ fd := by
  simpa using first_eq_none_iff.1 hnone j

theorem getTrackedType_trackFd_self (hfd : ¬ fd < 0) (hk : s.slotFor fd = some k) (type : Int) :
    (s.trackFd fd type).getTrackedType fd = type := by
  obtain ⟨-, hlt⟩ := slotFor_some hk
  rw [trackFd_of_slotFor hfd hk, getTrackedType_of_first (k := k) (by simp)]
  · simp
  · intro j hj
    simpa [ne_of_lt hj] using (hlt j hj).2

theorem getTrackedType_trackFd_other (type : Int) {x : Int} (hx : x ≠ fd) (hfree : x ≠ -1) :
    (s.trackFd fd type).getTrackedType x = s.getTrackedType x := by
  by_cases hfd : fd < 0
  · rw [trackFd, if_pos hfd]
  · cases hk : s.slotFor fd with
    | none => rw [trackFd_of_full hk]
    | some k =>
      obtain ⟨hat, -⟩ := slotFor_some hk
      have hne : s.trackedFd k ≠ x := by
        rcases hat with hat | hat <;> rw [hat]
        · exact hfree.symm
        · exact hx.symm
      rw [trackFd_of_slotFor hfd hk]
      refine getTrackedType_congr (fun j => ?_) (fun j hj => ?_)
      · by_cases hj : j = k
        · subst hj; simp [hne, hx.symm]
        · simp [hj]
      · have hjk : j ≠ k := fun he => hne (by rw [← he]; exact hj)
        exact Function.update_of_ne hjk _ _

/-- **After a TrackFd the lowest free slot is the lowest one besides the slot it wrote.** -/
theorem getTrackedType_trackFd_free (hfd : ¬ fd < 0) (hk : s.slotFor fd = some k) (type : Int) :
    (s.trackFd fd type).getTrackedType (-1) =
      (match s.freeBesides k fd with | none => -1 | some j => s.trackedType j) := by
  rw [trackFd_of_slotFor hfd hk]
  unfold getTrackedType freeBesides
  cases hf : first (fun x => x == -1) (Function.update s.trackedFd k fd) with
  | none => rfl
  | some j =>
    have hjk : j ≠ k := by
      intro he
      have hfree := SlotTable.apply_of_first hf
      rw [he, Function.update_self, beq_iff_eq] at hfree
      omega
    exact Function.update_of_ne hjk _ _

end TrackFd

section UntrackFd

variable (s : Instance) (fd : Int)

theorem getTrackedType_untrackFd_self (hfd : fd ≠ -1) : (s.untrackFd fd).getTrackedType fd = -1 := by
  refine getTrackedType_of_none fun k => ?_
  by_cases hk : s.trackedFd k = fd
  · simpa [untrackFd, hk] using hfd.symm
  · simp [untrackFd, hk]

theorem getTrackedType_untrackFd_other {x : Int} (hx : x ≠ fd) (hfree : x ≠ -1) :
    (s.untrackFd fd).getTrackedType x = s.getTrackedType x := by
  refine getTrackedType_congr (fun k => ?_) (fun _ _ => rfl)
  by_cases hk : s.trackedFd k = fd
  · simp [untrackFd, hk, hx.symm, hfree.symm]
  · simp [untrackFd, hk]

/-- **After an UntrackFd the lowest free slot is the first that was free or held the fd.** -/
theorem getTrackedType_untrackFd_free :
    (s.untrackFd fd).getTrackedType (-1) = (match s.slotFor fd with | none => -1 | some j => s.trackedType j) := by
  have hsame : first (fun x => x == -1) (s.untrackFd fd).trackedFd = s.slotFor fd := by
    refine SlotTable.first_congr fun k => ?_
    by_cases hk : s.trackedFd k = fd <;> simp [untrackFd, hk]
  unfold getTrackedType
  rw [hsame]
  rfl

end UntrackFd

end Instance

/-! ## The table and the map -/

/-- An instance and the map its table stands for. -/
structure FdTracking where
  table : Instance
  types : FdTypes

namespace FdTracking

def start : FdTracking := ⟨{}, FdTypes.empty⟩

def step (T : FdTracking) (c : FdCall) : FdTracking := ⟨T.table.fdCall c, T.types.call c⟩

/-- GetTrackedType answers what the map has. -/
def Agrees (T : FdTracking) : Prop := ∀ fd, T.table.getTrackedType fd = T.types.type fd

/-- No more fds are tracked than there are slots. -/
def Fits (T : FdTracking) : Prop := T.types.fds.card ≤ maxTrackedFds

instance : DecidablePred Fits := fun T => Nat.decLe T.types.fds.card maxTrackedFds

/-- A TrackFd finds a slot, and the slot that is the lowest free one after the call has the type -1. -/
def Clean (T : FdTracking) : FdCall → Prop
  | .trackFd fd type =>
    0 ≤ fd →
      match T.table.slotFor fd with
      | none => type = -1
      | some k => ∀ j ∈ T.table.freeBesides k fd, T.table.trackedType j = -1
  | .untrackFd fd => ∀ j ∈ T.table.slotFor fd, T.table.trackedType j = -1

theorem agrees_start : start.Agrees := by
  intro fd
  unfold start Instance.getTrackedType
  cases first (fun x => x == fd) (fun _ : Fin maxTrackedFds => (-1 : Int)) <;> rfl

/-- The type of a TrackFd is that of a socket, and not -1. -/
def Typed : FdCall → Prop
  | .trackFd _ type => type ≠ -1
  | .untrackFd _ => True

instance : DecidablePred Typed
  | .trackFd _ type => inferInstanceAs (Decidable (type ≠ -1))
  | .untrackFd _ => isTrue trivial

/-- No tracked fd is untracked, and a new fd comes while fewer are tracked than there are slots. -/
def Kept (T : FdTracking) : FdCall → Prop
  | .trackFd fd _ => 0 ≤ fd → fd ∈ T.types.fds ∨ T.types.fds.card < maxTrackedFds
  | .untrackFd fd => fd ∉ T.types.fds

instance (T : FdTracking) : ∀ c, Decidable (T.Kept c)
  | .trackFd fd _ => inferInstanceAs (Decidable (0 ≤ fd → fd ∈ T.types.fds ∨ T.types.fds.card < maxTrackedFds))
  | .untrackFd fd => inferInstanceAs (Decidable (fd ∉ T.types.fds))

/-- The slots are taken from the front, each by a tracked fd, and the free ones have the type -1. -/
structure Packed (T : FdTracking) : Prop where
  used_iff : ∀ k, T.table.trackedFd k ≠ -1 ↔ k.val < T.types.fds.card
  mem : ∀ k, T.table.trackedFd k ≠ -1 → T.table.trackedFd k ∈ T.types.fds
  held : ∀ fd ∈ T.types.fds, ∃ k, T.table.trackedFd k = fd
  free_iff : ∀ k, T.table.trackedType k = -1 ↔ T.table.trackedFd k = -1

/-- A lowest free slot, if there is one, answers -1 exactly if it has the type -1. -/
theorem answer_free_iff (o : Option (Fin maxTrackedFds)) (type : Fin maxTrackedFds → Int) :
    (match o with | none => -1 | some j => type j) = (-1 : Int) ↔ ∀ j ∈ o, type j = -1 := by
  cases o <;> simp

theorem agrees_trackFd {T : FdTracking} (h : T.Agrees) (fd type : Int) :
    (T.step (.trackFd fd type)).Agrees ↔ T.Clean (.trackFd fd type) := by
  by_cases hfd : fd < 0
  · have hsame : T.step (.trackFd fd type) = T := by
      simp only [step, Instance.fdCall, Instance.trackFd, FdTypes.call, if_pos hfd, dif_pos hfd]
    rw [hsame]
    exact ⟨fun _ hpos => absurd hfd (by omega), fun _ => h⟩
  · have htypes : (T.types.call (.trackFd fd type)).type = Function.update T.types.type fd type := by
      simp only [FdTypes.call, dif_neg hfd]
    have hneg : T.types.type (-1) = -1 := T.types.type_of_neg (by decide)
    have hfree : (-1 : Int) ≠ fd := by omega
    have hother : ∀ x, x ≠ fd → x ≠ -1 →
        (T.table.trackFd fd type).getTrackedType x = (T.types.call (.trackFd fd type)).type x := by
      intro x hx hx'
      rw [htypes, Function.update_of_ne hx, Instance.getTrackedType_trackFd_other type hx hx', h x]
    -- the answers for `fd` and for -1 are left
    have hsplit : (T.step (.trackFd fd type)).Agrees ↔
        (T.table.trackFd fd type).getTrackedType fd = type ∧ (T.table.trackFd fd type).getTrackedType (-1) = -1 := by
      constructor
      · intro ha
        have hat := ha fd
        have hatFree := ha (-1)
        simp only [step, htypes, Function.update_self, Function.update_of_ne hfree, hneg] at hat hatFree
        exact ⟨hat, hatFree⟩
      · rintro ⟨hat, hatFree⟩ x
        by_cases hx : x = fd
        · rw [hx]
          simpa only [step, Instance.fdCall, htypes, Function.update_self] using hat
        · by_cases hx' : x = -1
          · rw [hx']
            simpa only [step, Instance.fdCall, htypes, Function.update_of_ne hfree, hneg] using hatFree
          · exact hother x hx hx'
    rw [hsplit]
    cases hk : T.table.slotFor fd with
    | none =>
      have hclean : T.Clean (.trackFd fd type) ↔ type = -1 := by
        simp only [Clean, hk]
        exact ⟨fun hc => hc (by omega), fun hc _ => hc⟩
      have hmissing : T.table.getTrackedType fd = -1 :=
        Instance.getTrackedType_of_none fun j => (Instance.slotFor_none hk j).2
      rw [hclean, Instance.trackFd_of_full hk, hmissing, h (-1), hneg]
      exact ⟨fun hc => hc.1.symm, fun hc => ⟨hc.symm, rfl⟩⟩
    | some k =>
      have hclean : T.Clean (.trackFd fd type) ↔ ∀ j ∈ T.table.freeBesides k fd, T.table.trackedType j = -1 := by
        simp only [Clean, hk]
        exact ⟨fun hc => hc (by omega), fun hc _ => hc⟩
      rw [hclean, Instance.getTrackedType_trackFd_self hfd hk, Instance.getTrackedType_trackFd_free hfd hk,
        answer_free_iff]
      exact and_iff_right rfl

theorem agrees_untrackFd {T : FdTracking} (h : T.Agrees) (fd : Int) :
    (T.step (.untrackFd fd)).Agrees ↔ T.Clean (.untrackFd fd) := by
  have hneg : Function.update T.types.type fd (-1) (-1) = -1 := by
    by_cases he : (-1 : Int) = fd
    · rw [he, Function.update_self]
    · rw [Function.update_of_ne he]
      exact T.types.type_of_neg (by decide)
  have hfree : (T.table.untrackFd fd).getTrackedType (-1) = -1 ↔ T.Clean (.untrackFd fd) := by
    rw [Instance.getTrackedType_untrackFd_free, answer_free_iff]
    rfl
  rw [← hfree]
  constructor
  · intro ha
    exact (ha (-1)).trans hneg
  · intro hatFree x
    show (T.table.untrackFd fd).getTrackedType x = Function.update T.types.type fd (-1) x
    by_cases hx' : x = -1
    · rw [hx', hatFree, hneg]
    · by_cases hx : x = fd
      · subst hx
        rw [Instance.getTrackedType_untrackFd_self _ _ hx', Function.update_self]
      · rw [Instance.getTrackedType_untrackFd_other _ _ hx hx', Function.update_of_ne hx, h x]

/-! ## Tables without a gap -/

section Packed

variable {T : FdTracking} (h : T.Packed) {fd : Int}

include h

theorem Packed.slotFor_tracked (hfd : fd ∈ T.types.fds) : ∃ k, T.table.slotFor fd = some k ∧ T.table.trackedFd k = fd := by
  obtain ⟨i, hi⟩ := h.held fd hfd
  obtain ⟨k, hk⟩ : ∃ k, T.table.slotFor fd = some k := SlotTable.first_ne_none (k := i) (by simp [hi])
  obtain ⟨hat, hlt⟩ := Instance.slotFor_some hk
  refine ⟨k, hk, hat.resolve_left fun hfree => ?_⟩
  -- the slot of the fd lies before every free one
  have hnonneg := T.types.nonneg fd hfd
  have hik : i ≠ k := fun he => by
    rw [← he, hi] at hfree
    omega
  have hused := (h.used_iff i).1 (by omega)
  have hnot : ¬ k.val < T.types.fds.card := fun hlt => (h.used_iff k).2 hlt hfree
  exact (hlt i (Fin.lt_def.2 (by omega))).2 hi

theorem Packed.not_held (hfd : fd ∉ T.types.fds) (hnonneg : 0 ≤ fd) (k : Fin maxTrackedFds) : T.table.trackedFd k ≠ fd :=
  fun he => hfd (he ▸ h.mem k (by omega))

theorem Packed.slotFor_new (hfd : fd ∉ T.types.fds) (hnonneg : 0 ≤ fd) (hroom : T.types.fds.card < maxTrackedFds) :
    T.table.slotFor fd = some ⟨T.types.fds.card, hroom⟩ := by
  refine first_eq_some_iff.2 ⟨?_, fun j hj => ?_⟩
  · have hfree : T.table.trackedFd ⟨T.types.fds.card, hroom⟩ = -1 := by
      by_contra hne
      exact absurd ((h.used_iff _).1 hne) (Nat.lt_irrefl _)
    simp [hfree]
  · have hused := (h.used_iff j).2 hj
    simp [hused, h.not_held hfd hnonneg j]

theorem Packed.slotFor_full (hfd : fd ∉ T.types.fds) (hnonneg : 0 ≤ fd) (hfull : ¬ T.types.fds.card < maxTrackedFds) :
    T.table.slotFor fd = none := by
  refine first_eq_none_iff.2 fun j => ?_
  have hused := (h.used_iff j).2 (by omega)
  simp [hused, h.not_held hfd hnonneg j]

/-- Besides the slot of a TrackFd, a free slot was free before. -/
theorem Packed.free_besides {k j : Fin maxTrackedFds} (hnonneg : 0 ≤ fd) (hj : j ∈ T.table.freeBesides k fd) :
    T.table.trackedType j = -1 := by
  have hfree : Function.update T.table.trackedFd k fd j = -1 := by simpa using SlotTable.apply_of_first hj
  have hjk : j ≠ k := fun he => by
    rw [he, Function.update_self] at hfree
    omega
  rw [Function.update_of_ne hjk] at hfree
  exact (h.free_iff j).2 hfree

theorem Packed.clean_iff {c : FdCall} (hc : Typed c) : T.Clean c ↔ T.Kept c := by
  cases c with
  | trackFd fd type =>
    refine imp_congr_right fun hnonneg => ?_
    by_cases hfd : fd ∈ T.types.fds
    · obtain ⟨k, hk, -⟩ := h.slotFor_tracked hfd
      rw [hk]
      exact iff_of_true (fun j hj => h.free_besides hnonneg hj) (Or.inl hfd)
    · by_cases hroom : T.types.fds.card < maxTrackedFds
      · rw [h.slotFor_new hfd hnonneg hroom]
        exact iff_of_true (fun j hj => h.free_besides hnonneg hj) (Or.inr hroom)
      · rw [h.slotFor_full hfd hnonneg hroom]
        exact iff_of_false hc (not_or.2 ⟨hfd, hroom⟩)
  | untrackFd fd =>
    by_cases hfd : fd ∈ T.types.fds
    · obtain ⟨k, hk, hat⟩ := h.slotFor_tracked hfd
      have hnonneg := T.types.nonneg fd hfd
      refine iff_of_false (fun hclean => ?_) (fun hkept => hkept hfd)
      have hfree := (h.free_iff k).1 (hclean k hk)
      omega
    · refine iff_of_true (fun j hj => (h.free_iff j).2 ?_) hfd
      by_contra hused
      obtain ⟨hat, -⟩ := Instance.slotFor_some hj
      exact hfd (hat.resolve_left hused ▸ h.mem j hused)

/-- The slot that a typed TrackFd writes is not free, and the others are as they were. -/
theorem Packed.free_iff_update {k : Fin maxTrackedFds} {type : Int} (hnonneg : 0 ≤ fd) (htype : type ≠ -1)
    (j : Fin maxTrackedFds) :
    Function.update T.table.trackedType k type j = -1 ↔ Function.update T.table.trackedFd k fd j = -1 := by
  by_cases hj : j = k
  · rw [hj, Function.update_self, Function.update_self]
    exact iff_of_false htype (by omega)
  · rw [Function.update_of_ne hj, Function.update_of_ne hj]
    exact h.free_iff j

/-- **A tracked fd keeps its slot.** -/
theorem Packed.trackFd_tracked {type : Int} (hfd : fd ∈ T.types.fds) (htype : type ≠ -1) :
    (T.step (.trackFd fd type)).Packed := by
  obtain ⟨k, hk, hat⟩ := h.slotFor_tracked hfd
  have hnonneg := T.types.nonneg fd hfd
  have hneg : ¬ fd < 0 := by omega
  have hfds : (T.types.call (.trackFd fd type)).fds = T.types.fds := by
    simp only [FdTypes.call, dif_neg hneg, Finset.insert_eq_of_mem hfd]
  have hsame : Function.update T.table.trackedFd k fd = T.table.trackedFd := by rw [← hat, Function.update_eq_self]
  have hfree := fun j => h.free_iff_update (k := k) hnonneg htype j
  rw [hsame] at hfree
  simp only [step, Instance.fdCall]
  constructor <;> simp only [Instance.trackFd_of_slotFor hneg hk type, hsame, hfds]
  · exact h.used_iff
  · exact h.mem
  · exact h.held
  · exact hfree

/-- **A new fd takes the first free slot**, which lies behind the others. -/
theorem Packed.trackFd_new {type : Int} (hfd : fd ∉ T.types.fds) (hnonneg : 0 ≤ fd)
    (hroom : T.types.fds.card < maxTrackedFds) (htype : type ≠ -1) : (T.step (.trackFd fd type)).Packed := by
  have hneg : ¬ fd < 0 := by omega
  have hfds : (T.types.call (.trackFd fd type)).fds = insert fd T.types.fds := by simp only [FdTypes.call, dif_neg hneg]
  have hk := h.slotFor_new hfd hnonneg hroom
  have hfree := fun j => h.free_iff_update (k := ⟨T.types.fds.card, hroom⟩) hnonneg htype j
  have hcard := Finset.card_insert_of_notMem hfd
  simp only [step, Instance.fdCall]
  constructor <;> simp only [Instance.trackFd_of_slotFor hneg hk type, hfds]
  · intro j
    rw [hcard]
    by_cases hj : j = ⟨T.types.fds.card, hroom⟩
    · rw [hj, Function.update_self]
      exact iff_of_true (by omega) (Nat.lt_succ_self _)
    · have hval : j.val ≠ T.types.fds.card := fun he => hj (Fin.ext he)
      rw [Function.update_of_ne hj, h.used_iff]
      omega
  · intro j hused
    by_cases hj : j = ⟨T.types.fds.card, hroom⟩
    · rw [hj, Function.update_self]
      exact Finset.mem_insert_self _ _
    · rw [Function.update_of_ne hj] at hused ⊢
      exact Finset.mem_insert_of_mem (h.mem j hused)
  · intro x hx
    rcases Finset.mem_insert.1 hx with rfl | hx
    · exact ⟨⟨T.types.fds.card, hroom⟩, Function.update_self _ _ _⟩
    · obtain ⟨j, hj⟩ := h.held x hx
      have hxpos := T.types.nonneg x hx
      have hused := (h.used_iff j).1 (by omega)
      have hne : j ≠ ⟨T.types.fds.card, hroom⟩ := fun he => by
        rw [he] at hused
        exact absurd hused (Nat.lt_irrefl _)
      exact ⟨j, by rw [Function.update_of_ne hne, hj]⟩
  · exact hfree

theorem Packed.step {c : FdCall} (hc : Typed c) (hkept : T.Kept c) : (T.step c).Packed := by
  cases c with
  | trackFd fd type =>
    by_cases hneg : fd < 0
    · have hsame : T.step (.trackFd fd type) = T := by
        simp only [FdTracking.step, Instance.fdCall, Instance.trackFd, FdTypes.call, if_pos hneg, dif_pos hneg]
      rwa [hsame]
    · have hnonneg : 0 ≤ fd := by omega
      by_cases hfd : fd ∈ T.types.fds
      · exact h.trackFd_tracked hfd hc
      · exact h.trackFd_new hfd hnonneg ((hkept hnonneg).resolve_left hfd) hc
  | untrackFd fd =>
    have hslots : (T.table.untrackFd fd).trackedFd = T.table.trackedFd := by
      funext k
      show (if T.table.trackedFd k = fd then -1 else T.table.trackedFd k) = _
      split
      · rename_i hk
        by_contra hused
        exact hkept (hk ▸ h.mem k (Ne.symm hused))
      · rfl
    have hfds : (T.types.call (.untrackFd fd)).fds = T.types.fds := Finset.erase_eq_of_notMem hkept
    simp only [FdTracking.step, Instance.fdCall]
    constructor <;> simp only [hslots, hfds]
    · exact h.used_iff
    · exact h.mem
    · exact h.held
    · exact h.free_iff

end Packed

theorem packed_start : start.Packed where
  used_iff _ := iff_of_false (fun hne => hne rfl) (Nat.not_lt_zero _)
  mem _ hne := absurd rfl hne
  held fd hfd := absurd hfd (Finset.notMem_empty fd)
  free_iff _ := iff_of_true rfl rfl

/-! ## Runs -/

/-- **The table is a map from fds to types in all states of exactly the runs whose calls are all clean.**  With types other than
-1 these are the runs that untrack no tracked fd and never track a new fd when all slots are taken. -/
theorem fdTable_iff (calls : List FdCall) :
    (Runs.Throughout step Agrees start calls ↔ Runs.AllOk step Clean start calls) ∧
    ((∀ c ∈ calls, Typed c) → (Runs.Throughout step Agrees start calls ↔ Runs.AllOk step Kept start calls)) := by
  have hclean : Runs.Throughout step Agrees start calls ↔ Runs.AllOk step Clean start calls := by
    refine Runs.throughout_iff_allOk (P := fun _ => True) (fun _ _ _ => trivial) (fun T c _ h => ?_) calls trivial
      agrees_start
    cases c with
    | trackFd fd type => exact agrees_trackFd h fd type
    | untrackFd fd => exact agrees_untrackFd h fd
  refine ⟨hclean, fun htyped => hclean.trans ?_⟩
  exact Runs.allOk_congr (fun c hc _ h => h.clean_iff (htyped c hc)) (fun c hc _ h hkept => h.step (htyped c hc) hkept)
    packed_start

/-- Two fds are tracked, one of them again with another type, and an fd goes that was not tracked. -/
def twoTypes : List FdCall := [.trackFd 3 SOCK_STREAM, .trackFd 4 SOCK_DGRAM, .trackFd 3 SOCK_DGRAM, .untrackFd 5]

theorem fdTable_iff_twoTypes : Runs.Throughout step Agrees start twoTypes := by
  have htyped : ∀ c ∈ twoTypes, Typed c := by decide
  exact ((fdTable_iff twoTypes).2 htyped).2 (by decide)

/-- Sixteen fds are tracked, the first goes, the second is tracked again: it now has two slots, and a new fd has none. -/
def secondSlot : List FdCall :=
  (List.range 16).map (fun fd => .trackFd fd SOCK_DGRAM) ++
    [.untrackFd 0, .trackFd 1 SOCK_DGRAM, .trackFd 16 SOCK_STREAM]

/-- One fd is tracked and goes. -/
def staleType : List FdCall := [.trackFd 3 SOCK_STREAM, .untrackFd 3]

theorem fdTable_not_map :
    (Runs.Throughout step Fits start secondSlot ∧ (Runs.run step start secondSlot).table.getTrackedType 16 = -1 ∧
      (Runs.run step start secondSlot).types.type 16 = SOCK_STREAM) ∧
    (Runs.Throughout step Fits start staleType ∧ (Runs.run step start staleType).table.getTrackedType (-1) = SOCK_STREAM ∧
      (Runs.run step start staleType).types.type (-1) = -1) := by
  decide +kernel

end FdTracking
end Slp
