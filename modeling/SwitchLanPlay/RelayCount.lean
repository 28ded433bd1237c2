import SwitchLanPlay.ServiceCalls
/-!
# RelayCount — the count of bridged sockets and the life of the relay

`g_bridged_socket_count` is raised by every bridging `Bind` and lowered by the `Close` of a bridged socket, which takes the
relay down at zero.  A `Bind` on an instance that is bridged already, the end of an instance that still is, and the watchdog
move one side without the other.  In runs without them the count is exact in every state and the relay lives as long as a
bridged socket does (`relay_counted`).
-/
namespace Slp

open Wire

namespace Instance

@[simp] theorem hasBridged_untrackFd (s : Instance) (fd : Int) : (s.untrackFd fd).hasBridged = s.hasBridged := rfl

@[simp] theorem hasBridged_unbridged (s : Instance) : s.unbridged.hasBridged = false := rfl

theorem hasBridged_of_isBridged {s : Instance} {fd : Int} (h : s.isBridged fd = true) : s.hasBridged = true := by
  simp only [isBridged, Bool.and_eq_true, beq_iff_eq] at h
  rw [hasBridged, ← h.2]
  exact h.1

end Instance

namespace Service

/-! ## Counting the bridged instances -/

section Counting

variable {S : Service} {i : Nat} {s : Instance}

/-- **A write to an instance's place moves the count by the difference.** -/
theorem countP_set_instance {o : Option Instance} (h : S.instances[i]? = some o) (o' : Option Instance) :
    (S.instances.set i o').countP (fun o => o.any Instance.hasBridged) + (if o.any Instance.hasBridged then 1 else 0) =
      S.bridgedInstances + (if o'.any Instance.hasBridged then 1 else 0) := by
  obtain ⟨hlt, hget⟩ := List.getElem?_eq_some_iff.1 h
  have hle : (if o.any Instance.hasBridged then 1 else 0) ≤ S.bridgedInstances := by
    split
    · rename_i ho
      refine List.countP_pos_iff.2 ⟨o, ?_, ho⟩
      rw [← hget]
      exact List.getElem_mem hlt
    · exact Nat.zero_le _
  rw [List.countP_set hlt, hget]
  unfold bridgedInstances at hle ⊢
  omega

theorem bridgedInstances_setInstance (h : S.instance? i = some s) (s' : Instance) :
    (S.setInstance i s').bridgedInstances + (if s.hasBridged then 1 else 0) =
      S.bridgedInstances + (if s'.hasBridged then 1 else 0) :=
  countP_set_instance (getElem?_of_instance h) (some s')

theorem bridgedInstances_same (h : S.instance? i = some s) {s' : Instance} (hs : s'.hasBridged = s.hasBridged) :
    (S.setInstance i s').bridgedInstances = S.bridgedInstances := by
  have := bridgedInstances_setInstance h s'
  rw [hs] at this
  omega

/-- Two instances with bridged sockets count for two. -/
theorem two_le_bridgedInstances {j : Nat} {s' : Instance} (hij : j ≠ i) (h : S.instance? i = some s)
    (hs : s.hasBridged = true) (h' : S.instance? j = some s') (hs' : s'.hasBridged = true) : 2 ≤ S.bridgedInstances := by
  have hset := countP_set_instance (getElem?_of_instance h) none
  have hrest : 0 < (S.instances.set i none).countP (fun o => o.any Instance.hasBridged) := by
    refine List.countP_pos_iff.2 ⟨some s', ?_, hs'⟩
    refine List.mem_of_getElem? (i := j) ?_
    rw [List.getElem?_set_ne (Ne.symm hij)]
    exact getElem?_of_instance h'
  simp only [Option.any_some, hs, if_true, Option.any_none, Bool.false_eq_true, if_false] at hset
  omega

end Counting

/-! ## What a step does to the count -/

/-- The step of a run in which the count stays exact. -/
def Undisturbed (S : Service) : Op → Prop
  | .bind i fd port learnedIp _ =>
    ∀ s ∈ S.instance? i, S.bridges s fd port learnedIp = true → s.hasBridged = false ∧ 0 ≤ fd
  | .destroy i => ∀ s ∈ S.instance? i, s.hasBridged = false
  | .watchdog now => S.watchdogFires now = true → S.bridgedInstances = 0
  | _ => True

instance (S : Service) (op : Op) : Decidable (S.Undisturbed op) := by
  cases op <;> unfold Undisturbed <;> infer_instance

/-- The count says how many instances have a bridged socket. -/
def CountsBridged (S : Service) : Prop := S.bridgedSocketCount = S.bridgedInstances

/-- A change of neither the count nor the bridged instances. -/
structure SameBridged (S S' : Service) : Prop where
  count : S'.bridgedSocketCount = S.bridgedSocketCount
  instances : S'.bridgedInstances = S.bridgedInstances

theorem sameBridged_refl (S : Service) : SameBridged S S := ⟨rfl, rfl⟩

section Steps

variable {S : Service}

theorem KeepsBridged.sameBridged {S' : Service} (h : KeepsBridged S S') : SameBridged S S' :=
  ⟨h.bridgedSocketCount, h.bridgedInstances⟩

theorem create_same : SameBridged S S.create := by
  refine ⟨rfl, ?_⟩
  simp only [create, bridgedInstances, List.countP_append]
  rfl

/-- The end of an instance without a bridged socket. -/
theorem destroy_same {i : Nat} (h : S.Undisturbed (.destroy i)) : SameBridged S (S.destroy i) := by
  refine ⟨rfl, ?_⟩
  cases hi : S.instances[i]? with
  | none =>
    have hge : S.instances.length ≤ i := List.getElem?_eq_none_iff.1 hi
    simp only [destroy, bridgedInstances, List.set_eq_of_length_le hge]
  | some o =>
    have ho : o.any Instance.hasBridged = false := by
      cases o with
      | none => rfl
      | some s => exact h s (by simp [instance?, hi])
    have hset := countP_set_instance hi none
    simp only [ho, Option.any_none, Bool.false_eq_true, if_false, Nat.add_zero] at hset
    exact hset

/-- A bridging `Bind` on an instance without a bridged socket raises both sides. -/
theorem bind_counts (h : S.CountsBridged) {i : Nat} {fd : Int} {port : UInt16} {learnedIp : UInt32} {ok : Bool}
    (hok : S.Undisturbed (.bind i fd port learnedIp ok)) : (S.bind i fd port learnedIp ok).CountsBridged := by
  unfold bind
  cases hs : S.instance? i with
  | none => exact h
  | some s =>
    simp only
    split
    · rename_i hb
      obtain ⟨hno, hpos⟩ := hok s hs hb
      have hsame := (ensureRelayConnected_keepsBridged (S.bridge i s fd port learnedIp) ok).sameBridged
      have hinst := bridgedInstances_setInstance hs
        { s with bridgedFd := fd, bridgedLocalIp := learnedIp, bridgedLocalPort := port }
      have hyes : Instance.hasBridged { s with bridgedFd := fd, bridgedLocalIp := learnedIp, bridgedLocalPort := port } =
          true := decide_eq_true hpos
      rw [hno, hyes] at hinst
      simp only [Bool.false_eq_true, if_false, if_true, Nat.add_zero] at hinst
      unfold CountsBridged at h ⊢
      rw [hsame.count, hsame.instances]
      show S.bridgedSocketCount + 1 = ((S.setInstance i _).bridgedInstances : Int)
      rw [hinst, h]
      rfl
    · split
      · have hinst : (S.setInstance i { s with ldnTcpBindFd := fd }).bridgedInstances = S.bridgedInstances :=
          bridgedInstances_same hs rfl
        unfold CountsBridged at h ⊢
        rw [hinst]
        exact h
      · exact h

/-- **What a `Close` does to the count and the relay**: nothing, or it unbridges the instance. -/
theorem close_cases (i : Nat) (fd : Int) :
    (SameBridged S (S.close i fd).1 ∧ (S.close i fd).1.relay = S.relay) ∨
    ∃ s, S.instance? i = some s ∧ s.hasBridged = true ∧ (S.close i fd).1.bridgedSocketCount = S.countAfter ∧
      (S.close i fd).1.bridgedInstances + 1 = S.bridgedInstances ∧
      (S.close i fd).1.relay = if S.countAfter = 0 then S.relay.close else S.relay := by
  cases hs : S.instance? i with
  | none =>
    rw [close, hs]
    exact Or.inl ⟨sameBridged_refl S, rfl⟩
  | some s =>
    simp only [close, hs]
    by_cases hno : (S.isSynthetic i fd || !(s.untrackFd fd).isBridged fd) = true
    · rw [if_pos hno]
      exact Or.inl ⟨⟨rfl, bridgedInstances_same hs (Instance.hasBridged_untrackFd s fd)⟩, rfl⟩
    · rw [if_neg hno]
      simp only [Bool.or_eq_true, Bool.not_eq_true', not_or, Bool.not_eq_true, Bool.not_eq_false] at hno
      have hb : s.hasBridged = true := Instance.hasBridged_of_isBridged hno.2
      refine Or.inr ⟨s, rfl, hb, by rw [unbridge_bridgedSocketCount]; rfl, ?_, by rw [unbridge_relay]; rfl⟩
      have hset := bridgedInstances_setInstance hs (s.untrackFd fd).unbridged
      rw [hb, Instance.hasBridged_unbridged] at hset
      simp only [if_true, Bool.false_eq_true, if_false, Nat.add_zero] at hset
      rw [← hset]
      simp only [bridgedInstances, unbridge_instances, setInstance, List.set_set]

theorem countAfter_of_counts (h : S.CountsBridged) {n : Nat} (hn : n + 1 = S.bridgedInstances) : S.countAfter = n := by
  unfold CountsBridged at h
  unfold countAfter
  rw [h]
  split <;> omega

/-- **One step keeps the count exact.** -/
theorem countsBridged_step (h : S.CountsBridged) {op : Op} (hok : S.Undisturbed op) : (S.step op).1.CountsBridged := by
  have hsame : ∀ {S' : Service}, SameBridged S S' → S'.CountsBridged := fun hs => by
    unfold CountsBridged
    rw [hs.count, hs.instances]
    exact h
  cases op with
  | create => exact hsame create_same
  | destroy i => exact hsame (destroy_same hok)
  | bind i fd port learnedIp ok => exact bind_counts h hok
  | close i fd =>
    rcases close_cases (S := S) i fd with ⟨hs, -⟩ | ⟨s, -, -, hcount, hinst, -⟩
    · exact hsame hs
    · show (S.close i fd).1.bridgedSocketCount = _
      rw [hcount, countAfter_of_counts h hinst]
      rfl
  | watchdog now =>
    show (S.watchdog now).CountsBridged
    unfold watchdog
    by_cases hf : S.watchdogFires now = true
    · rw [if_pos hf]
      have hnone := hok hf
      show (0 : Int) = (S.bridgedInstances : Int)
      rw [hnone]
      rfl
    · rw [if_neg hf]
      exact h
  | forceReconnect ok => exact hsame ⟨rfl, rfl⟩
  | stop => exact hsame ⟨rfl, rfl⟩
  | _ => exact hsame (step_keepsBridged S rfl).sameBridged

end Steps

/-! ## The relay's life -/

/-- The step ends one of the bridged sockets: a `Close`, or the end of an instance. -/
def EndsSocket : Op → Prop
  | .close _ _ => True
  | .destroy _ => True
  | _ => False

/-- A `Close` leaves the relay to another instance's bridged socket; the step that removes the last one closes it. -/
structure RelayKept (S : Service) (op : Op) : Prop where
  survives : ∀ i fd, op = .close i fd →
    (∃ j s, j ≠ i ∧ S.instance? j = some s ∧ s.hasBridged = true) → (S.step op).1.relay = S.relay
  ends : EndsSocket op → 0 < S.bridgedInstances → (S.step op).1.bridgedInstances = 0 →
    (S.step op).1.relay.connected = false

theorem relayKept_of_counts {S : Service} (h : S.CountsBridged) {op : Op} (hok : S.Undisturbed op) : S.RelayKept op where
  survives := fun i fd hop ⟨j, s', hij, hj, hs'⟩ => by
    subst hop
    rcases close_cases (S := S) i fd with ⟨-, hr⟩ | ⟨s, hi, hs, -, hinst, hr⟩
    · exact hr
    · have htwo := two_le_bridgedInstances hij hi hs hj hs'
      have hcount := countAfter_of_counts h hinst
      show (S.close i fd).1.relay = S.relay
      rw [hr, if_neg]
      omega
  ends := fun hend hpos hzero => by
    cases op with
    | destroy i =>
      have hs := (destroy_same hok).instances
      have hzero' : (S.destroy i).bridgedInstances = 0 := hzero
      omega
    | close i fd =>
      have hzero' : (S.close i fd).1.bridgedInstances = 0 := hzero
      rcases close_cases (S := S) i fd with ⟨hs, -⟩ | ⟨s, -, -, -, hinst, hr⟩
      · have := hs.instances
        omega
      · have hcount := countAfter_of_counts h hinst
        show (S.close i fd).1.relay.connected = false
        rw [hr, if_pos (by omega)]
        rfl
    | _ => exact hend.elim

/-- **In a run of undisturbed steps the count is exact in every state**, and the relay goes with the last bridged socket and
not before. -/
theorem relay_counted {S : Service} (h : Reachable Undisturbed S) :
    S.CountsBridged ∧ ∀ op, S.Undisturbed op → S.RelayKept op := by
  have hcount : S.CountsBridged := by
    induction h with
    | init => rfl
    | step _ op hok ih => exact countsBridged_step ih hok
  exact ⟨hcount, fun op hok => relayKept_of_counts hcount hok⟩

/-- The control socket and a game's socket on the same address, the game's closed first. -/
def twoSockets : List Op :=
  [.create, .create, .socket 0 SOCK_DGRAM 3, .socket 1 SOCK_DGRAM 3, .bind 0 3 ldnControlPort 0x0A0D0001 true,
    .bind 1 3 49152 0x0A0D0001 true]

theorem relay_counted_twoSockets : (run {} twoSockets).bridgedSocketCount = 2 ∧
    ((run {} twoSockets).CountsBridged ∧ (run {} twoSockets).RelayKept (.close 1 3)) := by
  have hr := reachable_run twoSockets .init (by decide +kernel : AllOk Undisturbed {} twoSockets)
  exact ⟨by decide +kernel, (relay_counted hr).1, (relay_counted hr).2 _ trivial⟩

/-- **A second `Bind` of one socket is counted twice**: its `Close` leaves the relay connected with nobody bridged. -/
theorem rebind_counts_twice : ∃ S, Reachable (fun _ _ => True) S ∧ ¬ S.CountsBridged ∧ ¬ S.RelayKept (.close 0 3) := by
  let ops : List Op := [.create, .socket 0 SOCK_DGRAM 3, .bind 0 3 ldnControlPort 0x0A0D0001 true,
    .bind 0 3 ldnControlPort 0x0A0D0001 true]
  have hcount : (run {} ops).bridgedSocketCount = 2 ∧ (run {} ops).bridgedInstances = 1 := by decide +kernel
  have hleft : ((run {} ops).step (.close 0 3)).1.bridgedInstances = 0 ∧
      ((run {} ops).step (.close 0 3)).1.relay.connected = true := by decide +kernel
  refine ⟨run {} ops, reachable_run ops .init (by decide +kernel), fun h => ?_, fun h => ?_⟩
  · unfold CountsBridged at h
    rw [hcount.1, hcount.2] at h
    cases h
  · have := h.ends trivial (by rw [hcount.2]; decide) hleft.1
    rw [hleft.2] at this
    cases this

end Service
end Slp
