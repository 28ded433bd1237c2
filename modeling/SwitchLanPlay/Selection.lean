import SwitchLanPlay.RuntimeCfg
import SwitchLanPlay.Runs
import SwitchLanPlay.Tokens
/-!
# Selection — the selected server (source/cfg/runtime_cfg.cpp)

The selection is an index into the list, which reloads replace, and a text in selected.cfg, which anybody may edit and whose
writing may fail at each of its file calls.  As long as every index passed to `SelectServer` is below 2^31 the selection is valid
after every call (`selection_valid`).  From 2^31 on the index is negative as an `int` and below every count.
-/
namespace Slp

open Wire CStrings Servers

namespace RuntimeCfg

/-- The outcomes of the file calls of one `PersistSelection`, and what a file reads that was created and not written. -/
structure FileCalls where
  deleteFile : Bool
  createFile : Bool
  openFile : Bool
  writeFile : Bool
  created : Bytes

/-- `PersistSelection`.  `CreateFile` does not replace a file. -/
def persistSelection (fs : FileCalls) (file : Option Bytes) (index : Int) : Option Bytes :=
  let file := if fs.deleteFile then none else file
  if !fs.createFile || file.isSome then file
  else if !fs.openFile then some fs.created
  else if !fs.writeFile then some fs.created
  else some (selectionText index)

/-- `SelectServer`, with the outcomes of the file calls. -/
def trySelectServer (c : RuntimeCfg) (fs : FileCalls) (index : UInt32) : RuntimeCfg × Bool :=
  if index.toInt32.toInt ≥ c.list.count then (c, false)
  else
    ({ c with
        selIndex := index.toInt32.toInt
        selectedCfg := persistSelection fs c.selectedCfg index.toInt32.toInt }, true)

/-- A call, or an edit of selected.cfg from outside. -/
inductive Event where
  | reloadServers (file : Option Bytes)
  | selectServer (fs : FileCalls) (index : UInt32)
  | edit (file : Option Bytes)

def after (c : RuntimeCfg) : Event → RuntimeCfg
  | .reloadServers file => (c.reloadServers file).1
  | .selectServer fs index => (c.trySelectServer fs index).1
  | .edit file => { c with selectedCfg := file }

/-- The index is none, or one of the list's; with an empty list it is none. -/
structure Valid (c : RuntimeCfg) : Prop where
  none_le : -1 ≤ c.selIndex
  lt_count : c.selIndex < c.list.count

theorem Valid.of_empty {c : RuntimeCfg} (h : c.Valid) (hempty : c.list.count = 0) : c.selIndex = -1 := by
  have := h.none_le
  have := h.lt_count
  omega

/-- A call of `SelectServer` returns 1 exactly for an index of the list, which it then selects, and otherwise changes nothing. -/
structure Selects (c : RuntimeCfg) (fs : FileCalls) (index : UInt32) : Prop where
  accepts : (c.trySelectServer fs index).2 = true ↔ index.toNat < c.list.count
  selects : (c.trySelectServer fs index).2 = true → (c.trySelectServer fs index).1.selIndex = index.toNat
  refuses : (c.trySelectServer fs index).2 = false → (c.trySelectServer fs index).1 = c

/-- When it returns 1, selected.cfg reads the index. -/
def PersistsIndex (c : RuntimeCfg) (fs : FileCalls) (index : UInt32) : Prop :=
  (c.trySelectServer fs index).2 = true →
    readPersistedSelection (c.trySelectServer fs index).1.selectedCfg = some (index.toNat : Int)

/-- The file system does what `PersistSelection` asks of it. -/
def FileCalls.Succeed (fs : FileCalls) (file : Option Bytes) : Prop :=
  (fs.deleteFile = true ∨ file = none) ∧ fs.createFile = true ∧ fs.openFile = true ∧ fs.writeFile = true

/-- Every index selected is below 2^31. -/
def IndexBelow (_ : RuntimeCfg) : Event → Prop
  | .selectServer _ index => index.toNat < 2 ^ 31
  | _ => True

/-! ## The text of a selection -/

theorem persistSelection_of_succeed {fs : FileCalls} {file : Option Bytes} (h : fs.Succeed file) (index : Int) :
    persistSelection fs file index = some (selectionText index) := by
  obtain ⟨hdelete, hcreate, hopen, hwrite⟩ := h
  have hnone : (if fs.deleteFile then none else file) = none := by
    rcases hdelete with hd | rfl
    · rw [if_pos hd]
    · split <;> rfl
  simp [persistSelection, hnone, hcreate, hopen, hwrite]

/-- **With the file calls succeeding** it is `SelectServer` without their outcomes. -/
theorem trySelectServer_of_succeed {c : RuntimeCfg} {fs : FileCalls} (h : fs.Succeed c.selectedCfg) (index : UInt32) :
    c.trySelectServer fs index = c.selectServer index := by
  rw [trySelectServer, selectServer, persistSelection_of_succeed h]

theorem scanNat_digitsText (n : Nat) {c : UInt8} {rest : Bytes} (hc : isdigit c = false) :
    scanNat (digitsText n ++ c :: rest) = some n := by
  have hall : ∀ d ∈ digitsText n, isdigit d = true := fun _ hd => isdigit_of_mem_digitsText hd
  have hvalue := scanNat_of_digitsValue (digitsValue_digitsText n)
  rw [scanNat, List.takeWhile_eq_self_iff.2 hall] at hvalue
  rw [scanNat, List.takeWhile_append_of_pos hall, List.takeWhile_cons_of_neg (by simp [hc]), List.append_nil]
  exact hvalue

theorem readPersistedSelection_text {n : Nat} (h : n < 2 ^ 31) :
    readPersistedSelection (some (selectionText (n : Int))) = some (n : Int) := by
  have htext : selectionText (n : Int) = digitsText n ++ [newline] := by
    rw [selectionText, if_neg (by omega), List.nil_append, Int.natAbs_natCast]
    rfl
  have hlen := length_digitsText_le (n := n) (k := 10) (by decide) (by omega)
  have hread : readConfigText (some (digitsText n ++ [newline])) 16 = some (digitsText n ++ [newline]) := by
    refine if_pos ?_
    rw [List.length_append, List.length_singleton]
    omega
  have hcstr : cstr (digitsText n ++ [newline]) = digitsText n ++ [newline] := by
    apply cstr_of_not_mem
    intro h0
    rcases List.mem_append.1 h0 with h0 | h0
    · exact absurd (isdigit_of_mem_digitsText h0) (by decide)
    · exact absurd h0 (by decide)
  have hscan : scanDecimal (digitsText n ++ [newline]) = some (n : Int) := by
    have hnat : scanNat (digitsText n ++ [newline]) = some n := scanNat_digitsText n (by decide)
    cases hd : digitsText n with
    | nil => exact absurd hd (digitsText_ne_nil n)
    | cons c r =>
      have hdigit : isdigit c = true := isdigit_of_mem_digitsText (n := n) (by rw [hd]; exact List.mem_cons_self)
      have h45 : c ≠ 45 := by rintro rfl; cases hdigit
      have h43 : c ≠ 43 := by rintro rfl; cases hdigit
      rw [hd] at hnat
      rw [List.cons_append, scanDecimal_word (isspace_of_isdigit hdigit), if_neg h45, if_neg h43, ← List.cons_append, hnat]
      rfl
  have hmin : LONG_MIN = -9223372036854775808 := rfl
  have hmax : LONG_MAX = 9223372036854775807 := rfl
  have hclamp : clampLong (n : Int) = n := by
    rw [clampLong, if_neg (by omega), if_neg (by omega)]
  have hint : (Int32.ofInt (n : Int)).toInt = n := by
    rw [Int32.toInt_ofInt, show Int32.size = 2 ^ 32 from rfl, Int.bmod_def]
    split <;> omega
  rw [htext, readPersistedSelection, hread]
  simp only [hcstr, scanInt, hscan, Option.map_some, hclamp, hint]
  rw [if_neg (by omega)]

/-! ## Calls -/

theorem toInt_of_lt {index : UInt32} (h : index.toNat < 2 ^ 31) : index.toInt32.toInt = index.toNat :=
  BitVec.toInt_eq_toNat_of_lt (by show 2 * index.toNat < 2 ^ 32; omega)

theorem toInt_of_le {index : UInt32} (h : 2 ^ 31 ≤ index.toNat) : index.toInt32.toInt < 0 := by
  have hlt := index.toNat_lt
  have hint : index.toInt32.toInt = (index.toNat : Int) - 2 ^ 32 := by
    show index.toBitVec.toInt = _
    rw [BitVec.toInt_eq_toNat_cond, if_neg (by show ¬ 2 * index.toNat < 2 ^ 32; omega)]
    rfl
  omega

theorem count_le (c : RuntimeCfg) : c.list.count ≤ 10 := c.list.fits

/-- **An index below 2^31 is compared as it is.** -/
theorem selects_of_lt (c : RuntimeCfg) (fs : FileCalls) {index : UInt32} (h : index.toNat < 2 ^ 31) : Selects c fs index := by
  have hint := toInt_of_lt h
  by_cases hin : index.toNat < c.list.count
  · have hcall : c.trySelectServer fs index = (_, true) := if_neg (by rw [hint]; omega)
    rw [hint] at hcall
    refine ⟨?_, fun _ => by rw [hcall], fun hret => ?_⟩
    · rw [hcall]
      exact iff_of_true rfl hin
    · rw [hcall] at hret
      cases hret
  · have hcall : c.trySelectServer fs index = (c, false) := if_pos (by rw [hint]; omega)
    refine ⟨?_, fun hret => ?_, fun _ => by rw [hcall]⟩
    · rw [hcall]
      exact iff_of_false Bool.false_ne_true hin
    · rw [hcall] at hret
      cases hret

theorem persistsIndex_of_lt {c : RuntimeCfg} {fs : FileCalls} (hfs : fs.Succeed c.selectedCfg) {index : UInt32}
    (h : index.toNat < 2 ^ 31) : PersistsIndex c fs index := by
  intro hret
  have hint := toInt_of_lt h
  rw [trySelectServer_of_succeed hfs, selectServer] at hret ⊢
  split at hret
  · cases hret
  · rename_i hcount
    rw [if_neg hcount]
    show readPersistedSelection (some (selectionText index.toInt32.toInt)) = _
    rw [hint]
    exact readPersistedSelection_text h

/-- **An index from 2^31 on is taken, whatever the list.** -/
theorem not_selects_of_le (c : RuntimeCfg) (fs : FileCalls) {index : UInt32} (h : 2 ^ 31 ≤ index.toNat) :
    ¬ Selects c fs index := by
  intro hsel
  have hneg := toInt_of_le h
  have hcount := c.count_le
  have hcall : c.trySelectServer fs index = (_, true) := if_neg (by omega)
  have hin := hsel.accepts.1 (by rw [hcall])
  omega

/-! ## Runs -/

theorem selectedPersisted_nonneg {file : Option Bytes} {idx : Int} (h : readPersistedSelection file = some idx) : 0 ≤ idx := by
  unfold readPersistedSelection at h
  split at h
  · cases h
  · split at h
    · cases h
    · split at h
      · cases h
      · cases h
        omega

/-- **A reload leaves a valid selection**, whatever the files. -/
theorem valid_reloadServers {c : RuntimeCfg} (h : c.Valid) (file : Option Bytes) : (c.reloadServers file).1.Valid := by
  unfold reloadServers
  cases readConfigText file 4096 with
  | none => exact h
  | some buf =>
    dsimp only
    generalize slpnxServersParse buf = list
    have hother : -1 ≤ (if c.selIndex < 0 ∨ c.selIndex ≥ list.count then (if list.count > 0 then (0 : Int) else -1)
        else c.selIndex) ∧
        (if c.selIndex < 0 ∨ c.selIndex ≥ list.count then (if list.count > 0 then (0 : Int) else -1) else c.selIndex) <
          list.count := by
      split
      · split <;> omega
      · omega
    generalize (if c.selIndex < 0 ∨ c.selIndex ≥ list.count then (if list.count > 0 then (0 : Int) else -1)
      else c.selIndex) = other at hother ⊢
    cases hpersisted : readPersistedSelection c.selectedCfg with
    | none => exact ⟨hother.1, hother.2⟩
    | some idx =>
      have hidx := selectedPersisted_nonneg hpersisted
      dsimp only
      split
      · rename_i hlt
        exact ⟨Int.le_trans (by decide) hidx, hlt⟩
      · exact ⟨hother.1, hother.2⟩

theorem valid_after {c : RuntimeCfg} (h : c.Valid) (e : Event) (hbelow : IndexBelow c e) : (c.after e).Valid := by
  cases e with
  | reloadServers file => exact valid_reloadServers h file
  | edit file => exact ⟨h.none_le, h.lt_count⟩
  | selectServer fs index =>
    have hint := toInt_of_lt hbelow
    show (c.trySelectServer fs index).1.Valid
    unfold trySelectServer
    split
    · exact h
    · rename_i hcount
      rw [hint] at hcount ⊢
      exact ⟨by show (-1 : Int) ≤ index.toNat; omega, by show (index.toNat : Int) < c.list.count; omega⟩

/-- **With indices below 2^31 the selection is always valid**: after every run of reloads, selections and edits of selected.cfg,
whatever the files and the outcomes of the file calls.  There a selection does what it should, and persists the index if the
file system does its part, exactly when its index is below 2^31. -/
theorem selection_valid {c : RuntimeCfg} (h : Runs.Reachable after IndexBelow {} c) :
    c.Valid ∧ (c.list.count = 0 → c.selIndex = -1) ∧
    (∀ fs index, Selects c fs index ↔ index.toNat < 2 ^ 31) ∧
    ∀ fs index, fs.Succeed c.selectedCfg → (Selects c fs index ∧ PersistsIndex c fs index ↔ index.toNat < 2 ^ 31) := by
  have hvalid : c.Valid :=
    Runs.Reachable.keeps (P := Valid) ⟨by decide, by decide⟩ (fun _ e hc hok => valid_after hc e hok) h
  have hselects : ∀ fs index, Selects c fs index ↔ index.toNat < 2 ^ 31 := by
    intro fs index
    refine ⟨fun hsel => ?_, selects_of_lt c fs⟩
    by_contra hle
    exact not_selects_of_le c fs (Nat.not_lt.1 hle) hsel
  refine ⟨hvalid, hvalid.of_empty, hselects, fun fs index hfs => ?_⟩
  exact ⟨fun hboth => (hselects fs index).1 hboth.1, fun hlt => ⟨selects_of_lt c fs hlt, persistsIndex_of_lt hfs hlt⟩⟩

def FileCalls.fine : FileCalls := ⟨true, true, true, true, []⟩

/-- One server is loaded, "a b 1". -/
def oneLoaded : RuntimeCfg := after { list := ⟨[], Nat.zero_le _⟩ } (.reloadServers (some [97, 32, 98, 32, 49, 10]))

theorem selection_valid_oneLoaded : oneLoaded.Valid ∧ (Selects oneLoaded .fine 0 ∧ PersistsIndex oneLoaded .fine 0) :=
  have hreach : Runs.Reachable after IndexBelow {} oneLoaded := Runs.Reachable.single (Event.reloadServers _) trivial
  ⟨(selection_valid hreach).1, ((selection_valid hreach).2.2.2 .fine 0 ⟨.inl rfl, rfl, rfl, rfl⟩).2 (by decide)⟩

/-- **Of one server, number 2^31 is selected.** -/
theorem not_selects_sign_bit : ¬ Selects oneLoaded .fine 0x80000000 ∧
    (oneLoaded.trySelectServer .fine 0x80000000).2 = true ∧
    ¬ (oneLoaded.after (.selectServer .fine 0x80000000)).Valid := by
  have hcount : oneLoaded.list.count = 1 := by decide +kernel
  have hret : (oneLoaded.trySelectServer .fine 0x80000000).2 = true := by decide +kernel
  refine ⟨fun h => ?_, hret, fun h => absurd h.none_le (by decide +kernel)⟩
  have hin := h.accepts.1 hret
  rw [hcount] at hin
  exact absurd hin (by decide)

end RuntimeCfg
end Slp
