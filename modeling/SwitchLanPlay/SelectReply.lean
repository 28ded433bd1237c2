import Mathlib.Data.Finset.Card
import Mathlib.Data.Finset.Range
import SwitchLanPlay.Forwarding
/-!
# SelectReply — what a `Select` reports of the virtual descriptors

The descriptors of the relay are put into the read set whatever the client asked for.  The reply is what was asked for, and the
client's timeout its own, exactly if every virtual descriptor with data waiting that has a bit in the output buffer was asked for
(`selectReports_iff`).  Count and bits always agree (`injectAll_spec`).
-/
namespace Slp

open Wire

/-- The number of bits set. -/
def FdSet.card (set : FdSet) : Nat := ((Finset.range (32 * set.words)).filter (fun fd => set.has fd = true)).card

theorem FdSet.mem_iff {set : FdSet} {fd : Nat} : set.mem fd = true ↔ fd < 32 * set.words ∧ set.has fd = true := by
  rw [mem, Bool.and_eq_true, decide_eq_true_eq]

def FdSet.insert (set : FdSet) (fd : Nat) : FdSet := { set with has := fun f => set.has f || f == fd }

/-- **A new bit counts as one.** -/
theorem FdSet.card_insert (set : FdSet) {fd : Nat} (hin : fd < 32 * set.words) (hnew : set.has fd = false) :
    (set.insert fd).card = set.card + 1 := by
  have hset : (Finset.range (32 * set.words)).filter (fun f => (set.insert fd).has f = true) =
      Insert.insert fd ((Finset.range (32 * set.words)).filter (fun f => set.has f = true)) := by
    ext f
    simp only [FdSet.insert, Finset.mem_filter, Finset.mem_range, Finset.mem_insert, Bool.or_eq_true, beq_iff_eq]
    constructor
    · rintro ⟨hf, hhas | rfl⟩
      · exact Or.inr ⟨hf, hhas⟩
      · exact Or.inl rfl
    · rintro (rfl | ⟨hf, hhas⟩)
      · exact ⟨hin, Or.inr rfl⟩
      · exact ⟨hf, Or.inl hhas⟩
  have hnot : fd ∉ (Finset.range (32 * set.words)).filter (fun f => set.has f = true) := by
    simp [hnew]
  have hwords : (set.insert fd).words = set.words := rfl
  rw [card, hwords, hset, Finset.card_insert_of_notMem hnot, card]

/-- What the real service answers to a `Select`: the descriptors of the read set that are below `nfds` and were asked for, and
the number of bits set in the three sets. -/
structure Answer.ValidSelect (nfds : Int) (readIn : FdSet) (readOut : Nat) (ans : Answer) : Prop where
  words : ans.readfds.words = readOut
  asked : ∀ fd : Nat, ans.readfds.mem fd = true → (fd : Int) < nfds ∧ readIn.mem fd = true
  ret : ans.ret = ((ans.readfds.card + ans.writefds.card + ans.errorfds.card : Nat) : Int)

namespace Console

section Inject

variable (C : Console) (i : Nat) (s : Instance)

/-- The descriptor has data waiting here and a bit in the output buffer. -/
def Injects (readOut : Nat) (fd : Int) : Prop :=
  0 ≤ fd ∧ C.vfdHasPendingRead i s fd = true ∧ fd.toNat < 32 * readOut

variable {C i s}

/-- **A descriptor with data waiting is one a `Select` answers for.** -/
theorem mem_injectedFds {fd : Int} (h : C.vfdHasPendingRead i s fd = true) : fd ∈ C.injectedFds i s := by
  unfold vfdHasPendingRead at h
  unfold injectedFds
  split at h
  · cases h
  split at h
  · rename_i hb
    rw [hb]
    exact List.mem_cons_self ..
  split at h
  · rename_i hl
    simp only [VTcp.isOwnTcpListenFd, Bool.and_eq_true, beq_iff_eq] at hl
    rw [if_pos hl.1, hl.2]
    exact List.mem_cons_of_mem _ (List.mem_cons_self ..)
  · obtain ⟨k, hk, -⟩ := Option.any_eq_true _ _ |>.1 h
    unfold VTcp.findVTcpConnByFd at hk
    split at hk
    · rename_i hown
      have hslot := SlotTable.apply_of_first hk
      simp only [Bool.and_eq_true, beq_iff_eq] at hslot
      rw [if_pos hown]
      refine List.mem_cons_of_mem _ (List.mem_cons_of_mem _ (List.mem_map.2 ⟨k, ?_, hslot.2⟩))
      exact List.mem_filter.2 ⟨List.mem_finRange k, hslot.1⟩
    · cases hk

/-- One injection sets the bit of a descriptor that is injected, if it is not set, and counts it. -/
theorem injectReadfd_eq (readOut : Nat) (acc : FdSet × Int) (fd : Int) :
    (¬ C.Injects i s readOut fd ∨ acc.1.has fd.toNat = true) ∧ C.injectReadfd i s readOut acc fd = acc ∨
      C.Injects i s readOut fd ∧ acc.1.has fd.toNat = false ∧
        C.injectReadfd i s readOut acc fd = (acc.1.insert fd.toNat, if 0 ≤ acc.2 then acc.2 + 1 else acc.2) := by
  unfold injectReadfd
  by_cases hp : fd < 0 ∨ C.vfdHasPendingRead i s fd = false
  · left
    rw [if_pos hp]
    refine ⟨Or.inl ?_, rfl⟩
    rintro ⟨hfd, hpend, -⟩
    rcases hp with hp | hp
    · omega
    · rw [hp] at hpend
      cases hpend
  rw [if_neg hp]
  rw [not_or, Int.not_lt, Bool.not_eq_false] at hp
  by_cases hout : readOut < fd.toNat / 32 + 1
  · left
    rw [if_pos hout]
    refine ⟨Or.inl (fun h => ?_), rfl⟩
    have := h.2.2
    omega
  rw [if_neg hout]
  have hinj : C.Injects i s readOut fd := ⟨hp.1, hp.2, by omega⟩
  by_cases hhas : acc.1.has fd.toNat = true
  · left
    rw [if_pos hhas]
    exact ⟨Or.inr hhas, rfl⟩
  · right
    rw [if_neg hhas]
    exact ⟨hinj, by simpa using hhas, rfl⟩

/-- **Injecting a list of descriptors sets the bits of those that are injected, and counts the new ones.** -/
theorem injectAll_spec (readOut : Nat) (others : Nat) : ∀ (fds : List Int) (acc : FdSet × Int), acc.1.words = readOut →
    acc.2 = ((acc.1.card + others : Nat) : Int) →
    (fds.foldl (C.injectReadfd i s readOut) acc).1.words = readOut ∧
      (fds.foldl (C.injectReadfd i s readOut) acc).2 =
        (((fds.foldl (C.injectReadfd i s readOut) acc).1.card + others : Nat) : Int) ∧
      ∀ f : Nat, (fds.foldl (C.injectReadfd i s readOut) acc).1.has f = true ↔
        acc.1.has f = true ∨ ∃ fd ∈ fds, C.Injects i s readOut fd ∧ fd.toNat = f
  | [], acc, hwords, hcount => ⟨hwords, hcount, fun f => by simp⟩
  | fd :: fds, acc, hwords, hcount => by
    rw [List.foldl_cons]
    rcases C.injectReadfd_eq (i := i) (s := s) readOut acc fd with ⟨hno, heq⟩ | ⟨hinj, hnew, heq⟩
    · rw [heq]
      obtain ⟨hw, hc, hbits⟩ := injectAll_spec readOut others fds acc hwords hcount
      refine ⟨hw, hc, fun f => (hbits f).trans ⟨?_, ?_⟩⟩
      · rintro (hf | ⟨fd', hfd', hf⟩)
        · exact Or.inl hf
        · exact Or.inr ⟨fd', List.mem_cons_of_mem _ hfd', hf⟩
      · rintro (hf | ⟨fd', hfd', hf⟩)
        · exact Or.inl hf
        · rcases List.mem_cons.1 hfd' with rfl | hfd'
          · left
            rw [← hf.2]
            exact hno.resolve_left (not_not_intro hf.1)
          · exact Or.inr ⟨fd', hfd', hf⟩
    · rw [heq]
      have hcard := FdSet.card_insert acc.1 (by rw [hwords]; exact hinj.2.2) hnew
      obtain ⟨hw, hc, hbits⟩ := injectAll_spec readOut others fds
        (acc.1.insert fd.toNat, if 0 ≤ acc.2 then acc.2 + 1 else acc.2) hwords (by
          rw [if_pos (by omega), hcard, hcount]
          omega)
      refine ⟨hw, hc, fun f => (hbits f).trans ?_⟩
      simp only [FdSet.insert, Bool.or_eq_true, beq_iff_eq]
      constructor
      · rintro ((hf | rfl) | ⟨fd', hfd', hf⟩)
        · exact Or.inl hf
        · exact Or.inr ⟨fd, List.mem_cons_self .., hinj, rfl⟩
        · exact Or.inr ⟨fd', List.mem_cons_of_mem _ hfd', hf⟩
      · rintro (hf | ⟨fd', hfd', hf⟩)
        · exact Or.inl (Or.inl hf)
        · rcases List.mem_cons.1 hfd' with rfl | hfd'
          · exact Or.inl (Or.inr hf.2.symm)
          · exact Or.inr ⟨fd', hfd', hf⟩

end Inject

/-! ## The reply as a whole -/

section Reports

variable (i : Nat) (s : Instance)

/-- A `Select` reports what was asked for: in the read set only descriptors that were, below `nfds`, among them those with
virtual data waiting, the number of bits set; and with none of these waiting the timeout forwarded is the client's. -/
structure SelectReports (o : Outcome) (nfds : Int) (timeout : SelectTimeval) (readIn writeIn errorIn : FdSet)
    (readOut writeOut errorOut : Nat) : Prop where
  asked : ∀ fd : Nat, o.reply.readfds.mem fd = true → (fd : Int) < nfds ∧ readIn.mem fd = true
  ready : ∀ fd : Nat, (fd : Int) < nfds → readIn.mem fd = true → o.console.vfdHasPendingRead i s fd = true →
    o.reply.readfds.mem fd = true
  count : o.reply.ret = ((o.reply.readfds.card + o.reply.writefds.card + o.reply.errorfds.card : Nat) : Int)
  timeout : (∀ fd : Nat, (fd : Int) < nfds → readIn.mem fd = true → o.console.vfdHasPendingRead i s fd = false) →
    o.requests = [.select nfds timeout (o.console.forwardReadfds i nfds readIn) writeIn errorIn readOut writeOut errorOut]

variable {i s} {C : Console} {env : Env} {nfds : Int} {timeout : SelectTimeval} {readIn writeIn errorIn : FdSet}
variable {readOut writeOut errorOut : Nat}

theorem selectWords_le (hw : selectWellShaped nfds readIn readOut = true) {fd : Nat} (hfd : (fd : Int) < nfds) :
    fd < 32 * selectWords nfds ∧ selectWords nfds ≤ readIn.words ∧ selectWords nfds ≤ readOut := by
  simp only [selectWellShaped, Bool.and_eq_true, decide_eq_true_eq] at hw
  refine ⟨?_, hw.1.2, hw.2⟩
  have hne := hw.1.1
  unfold selectWords at hne ⊢
  split at hne
  · rename_i hn
    rw [if_pos hn]
    omega
  · exact absurd rfl hne

theorem select_eq (hw : selectWellShaped nfds readIn readOut = true) :
    C.select i s env nfds timeout readIn writeIn errorIn readOut writeOut errorOut =
      { console := (C.drainRawRelayQueue env.drained).1
        reply := (C.drainRawRelayQueue env.drained).1.selectReply i s readOut
          (env.real ((C.drainRawRelayQueue env.drained).1.selectRequest i s nfds timeout readIn writeIn errorIn readOut
            writeOut errorOut))
        requests := [(C.drainRawRelayQueue env.drained).1.selectRequest i s nfds timeout readIn writeIn errorIn readOut
          writeOut errorOut]
        segs := (C.drainRawRelayQueue env.drained).2 } := by
  unfold select
  dsimp only
  rw [if_neg (by simp [hw])]

/-- **The read set that comes out** is that of the real service with every virtual descriptor that is injected, and its bits are
counted. -/
theorem selectReply_spec (i : Nat) (s : Instance) {readIn : FdSet} {ans : Answer} (hreal : ans.ValidSelect nfds readIn readOut) :
    (∀ f : Nat, (C.selectReply i s readOut ans).readfds.mem f = true ↔
      ans.readfds.mem f = true ∨ f < 32 * readOut ∧ C.vfdHasPendingRead i s f = true) ∧
    (C.selectReply i s readOut ans).ret = (((C.selectReply i s readOut ans).readfds.card +
      (C.selectReply i s readOut ans).writefds.card + (C.selectReply i s readOut ans).errorfds.card : Nat) : Int) := by
  obtain ⟨hwords, hcount, hbits⟩ := injectAll_spec (C := C) (i := i) (s := s) readOut
    (ans.writefds.card + ans.errorfds.card) (C.injectedFds i s) (ans.readfds, ans.ret) hreal.words (by
      have hret := hreal.ret
      dsimp only
      omega)
  constructor
  · intro f
    have hw : (C.selectReply i s readOut ans).readfds.words = readOut := hwords
    have hb : (C.selectReply i s readOut ans).readfds.has f = true ↔
        ans.readfds.has f = true ∨ ∃ fd ∈ C.injectedFds i s, C.Injects i s readOut fd ∧ fd.toNat = f := hbits f
    rw [FdSet.mem_iff, FdSet.mem_iff, hreal.words, hw, hb]
    constructor
    · rintro ⟨hlt, hhas | ⟨fd, -, hinj, rfl⟩⟩
      · exact Or.inl ⟨hlt, hhas⟩
      · have hcast : ((fd.toNat : Nat) : Int) = fd := Int.toNat_of_nonneg hinj.1
        rw [hcast]
        exact Or.inr ⟨hlt, hinj.2.1⟩
    · rintro (⟨hlt, hhas⟩ | ⟨hlt, hpend⟩)
      · exact ⟨hlt, Or.inl hhas⟩
      · exact ⟨hlt, Or.inr ⟨f, mem_injectedFds hpend, ⟨Int.natCast_nonneg f, hpend, by simpa using hlt⟩, Int.toNat_natCast f⟩⟩
  · refine Eq.trans hcount ?_
    rw [← Nat.add_assoc]
    rfl

/-- A descriptor of the read set that is forwarded is one the client asked for. -/
theorem asked_of_forwardReadfds (hw : selectWellShaped nfds readIn readOut = true) {f : Nat} (hn : (f : Int) < nfds)
    (hf : (C.forwardReadfds i nfds readIn).mem f = true) : readIn.mem f = true := by
  obtain ⟨hword, hle, -⟩ := selectWords_le hw hn
  rw [FdSet.mem_iff] at hf ⊢
  simp only [forwardReadfds, Bool.and_eq_true] at hf
  exact ⟨by omega, hf.2.1⟩

/-- **A `Select` reports what was asked for exactly if every virtual descriptor with data waiting that has a bit in the output
buffer was asked for.**  The buffers are well shaped and the real service answers as it should. -/
theorem selectReports_iff (hw : selectWellShaped nfds readIn readOut = true)
    (hreal : (env.real ((C.drainRawRelayQueue env.drained).1.selectRequest i s nfds timeout readIn writeIn errorIn readOut
      writeOut errorOut)).ValidSelect nfds ((C.drainRawRelayQueue env.drained).1.forwardReadfds i nfds readIn) readOut) :
    SelectReports i s (C.select i s env nfds timeout readIn writeIn errorIn readOut writeOut errorOut) nfds timeout readIn
        writeIn errorIn readOut writeOut errorOut ↔
      ∀ fd : Nat, fd < 32 * readOut → (C.drainRawRelayQueue env.drained).1.vfdHasPendingRead i s fd = true →
        (fd : Int) < nfds ∧ readIn.mem fd = true := by
  rw [select_eq hw]
  generalize (C.drainRawRelayQueue env.drained).1 = C' at hreal
  generalize (C.drainRawRelayQueue env.drained).2 = segs
  generalize hans : env.real (C'.selectRequest i s nfds timeout readIn writeIn errorIn readOut writeOut errorOut) = ans at hreal
  obtain ⟨hmem, hcount⟩ := C'.selectReply_spec i s hreal
  constructor
  · intro hrep fd hlt hpend
    exact hrep.asked fd ((hmem fd).2 (Or.inr ⟨hlt, hpend⟩))
  · intro hcond
    refine ⟨fun f hf => ?_, fun f hlt _ hpend => ?_, hcount, fun hquiet => ?_⟩
    · rcases (hmem f).1 hf with hf | ⟨hlt, hpend⟩
      · obtain ⟨hn, hforward⟩ := hreal.asked f hf
        exact ⟨hn, asked_of_forwardReadfds hw hn hforward⟩
      · exact hcond f hlt hpend
    · obtain ⟨hword, -, hle⟩ := selectWords_le hw hlt
      exact (hmem f).2 (Or.inr ⟨by omega, hpend⟩)
    · have hnone : (List.range nfds.toNat).any (fun fd => C'.vfdHasPendingRead i s fd) = false := by
        rw [List.any_eq_false]
        intro fd hfd hpend
        have hn : (fd : Int) < nfds := by
          have := List.mem_range.1 hfd
          omega
        obtain ⟨hword, -, hle⟩ := selectWords_le hw hn
        have hasked := (hcond fd (by omega) hpend).2
        rw [hquiet fd hn hasked] at hpend
        cases hpend
      simp only [selectRequest, hnone, Bool.false_eq_true, if_false]

end Reports

/-! ## A `Select` of one descriptor -/

/-- The accepted connection has a byte to read. -/
def readableHost : Console where
  service := Service.run {} (hostSession ++ [.drainSegment 0 ⟨0x0A0D0002, ldnControlPort, ldnControlPort, 101, 78, TCP_ACK, [7]⟩])

/-- The real service has nothing ready. -/
def idleEnv : Env :=
  { quietEnv with
    real := fun c => match c with
      | .select _ _ _ _ _ readOut _ _ => { readfds := { words := readOut } }
      | c => quietEnv.real c }

theorem validSelect_idle (nfds : Int) (readIn : FdSet) (readOut : Nat) :
    ({ readfds := { words := readOut } } : Answer).ValidSelect nfds readIn readOut where
  words := rfl
  asked fd h := by
    rw [FdSet.mem_iff] at h
    cases h.2
  ret := by simp [FdSet.card]

/-- The client asks for its descriptors 0 and 1000, with buffers of 32 words. -/
def selectIn : FdSet where
  words := 32
  has fd := fd == 0 || fd == 1000

theorem selectReports_iff_readableHost : ∃ s, readableHost.service.instance? 0 = some s ∧
    (SelectReports 0 s (readableHost.select 0 s idleEnv 1001 ⟨5, 0, false⟩ selectIn {} {} 32 0 0) 1001 ⟨5, 0, false⟩ selectIn {}
        {} 32 0 0 ↔
      ∀ fd : Nat, fd < 32 * 32 → (readableHost.drainRawRelayQueue idleEnv.drained).1.vfdHasPendingRead 0 s fd = true →
        (fd : Int) < 1001 ∧ selectIn.mem fd = true) := by
  cases hs : readableHost.service.instance? 0 with
  | none => exact absurd (congrArg Option.isSome hs) (by decide +kernel)
  | some s => exact ⟨s, rfl, selectReports_iff (by decide) (validSelect_idle _ _ _)⟩

theorem select_sets_1000 : ∀ s ∈ readableHost.service.instance? 0,
    (readableHost.select 0 s idleEnv 1 ⟨5, 0, false⟩ { words := 32 } {} {} 32 0 0).reply.readfds.mem 1000 = true := by
  decide +kernel

/-- **A `Select` of descriptor 0 alone reports descriptor 1000.** -/
theorem select_reports_unasked : Reached readableHost.service ∧ selectWellShaped 1 { words := 32 } 32 = true ∧
    ∃ s, readableHost.service.instance? 0 = some s ∧
      (idleEnv.real ((readableHost.drainRawRelayQueue idleEnv.drained).1.selectRequest 0 s 1 ⟨5, 0, false⟩ { words := 32 } {} {}
        32 0 0)).ValidSelect 1 ((readableHost.drainRawRelayQueue idleEnv.drained).1.forwardReadfds 0 1 { words := 32 }) 32 ∧
      (readableHost.select 0 s idleEnv 1 ⟨5, 0, false⟩ { words := 32 } {} {} 32 0 0).reply.readfds.mem 1000 = true ∧
      ¬ SelectReports 0 s (readableHost.select 0 s idleEnv 1 ⟨5, 0, false⟩ { words := 32 } {} {} 32 0 0) 1 ⟨5, 0, false⟩
        { words := 32 } {} {} 32 0 0 := by
  cases hs : readableHost.service.instance? 0 with
  | none => exact absurd (congrArg Option.isSome hs) (by decide +kernel)
  | some s =>
    have hset := select_sets_1000 s hs
    refine ⟨Service.reachable_run _ .init (by decide +kernel), by decide, s, rfl, validSelect_idle _ _ _, hset, fun h => ?_⟩
    have := (h.asked 1000 hset).1
    omega

end Console
end Slp
