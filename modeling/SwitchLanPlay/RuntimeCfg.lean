import SwitchLanPlay.Servers
/-!
# RuntimeCfg — the sysmodule's server list and the overlay's

The sysmodule loads servers.conf at boot and again when the overlay starts, and the overlay then loads the file itself.  The
sysmodule takes a file of 1 to 4094 bytes whole and keeps the list it has when the file is of any other size.  The overlay
takes the first 1679 bytes of any file.  `sameList_iff` says for which files the two lists agree.
-/
namespace Slp

open Wire CStrings Servers

/-- `g_servers`, `m_sel_index`, and the file `selected.cfg` that keeps the selection. -/
structure RuntimeCfg where
  list : ServerList := ⟨[], by decide⟩
  selIndex : Int := -1
  selectedCfg : Option Bytes := none

namespace ServerList

def count (l : ServerList) : Nat := l.entries.length

/-- `slpnxServersGet`. -/
def get (l : ServerList) (index : Int) : Option SlpNxServer :=
  if index < 0 ∨ index ≥ l.count then none else l.entries[index.toNat]?

end ServerList

namespace RuntimeCfg

/-- `ReadConfigText` into a buffer of `cap` bytes.  A file that cannot be read is `none`. -/
def readConfigText (file : Option Bytes) (cap : Nat) : Option Bytes :=
  match file with
  | none => none
  | some text => if text.length > 0 ∧ text.length < cap - 1 then some text else none

/-- `ReadPersistedSelection`. -/
def readPersistedSelection (file : Option Bytes) : Option Int :=
  match readConfigText file 16 with
  | none => none
  | some buf =>
    match scanInt (cstr buf) with
    | none => none
    | some idx => if idx < 0 then none else some idx

/-- The text `PersistSelection` writes. -/
def selectionText (index : Int) : Bytes :=
  (if index < 0 then [45] else []) ++ (Nat.toDigits 10 index.natAbs).map (fun c => c.toNat.toUInt8) ++ [newline]

/-- `ReloadServers`, with the file servers.conf. -/
def reloadServers (c : RuntimeCfg) (file : Option Bytes) : RuntimeCfg × Nat :=
  match readConfigText file 4096 with
  | none => (c, 0)
  | some buf =>
    let list := slpnxServersParse buf
    let otherwise :=
      if c.selIndex < 0 ∨ c.selIndex ≥ list.count then (if list.count > 0 then 0 else -1) else c.selIndex
    let selIndex :=
      match readPersistedSelection c.selectedCfg with
      | some persisted => if persisted < list.count then persisted else otherwise
      | none => otherwise
    ({ c with list := list, selIndex := selIndex }, list.count)

/-- `SelectServer`.  The index is compared as an `int`. -/
def selectServer (c : RuntimeCfg) (index : UInt32) : RuntimeCfg × Bool :=
  if index.toInt32.toInt ≥ c.list.count then (c, false)
  else ({ c with selIndex := index.toInt32.toInt, selectedCfg := some (selectionText index.toInt32.toInt) }, true)

/-- The selected server. -/
def selected (c : RuntimeCfg) : Option SlpNxServer := c.list.get c.selIndex

/-- A call of the sysmodule's, of its boot or of the overlay's. -/
inductive Op where
  | reloadServers (file : Option Bytes)
  | selectServer (index : UInt32)

def step (c : RuntimeCfg) : Op → RuntimeCfg
  | .reloadServers file => (c.reloadServers file).1
  | .selectServer index => (c.selectServer index).1

def run (c : RuntimeCfg) (ops : List Op) : RuntimeCfg := ops.foldl step c

/-- The sysmodule's buffer takes the file. -/
def Loadable (text : Bytes) : Prop := text.length > 0 ∧ text.length < 4095

instance (text : Bytes) : Decidable (Loadable text) := by
  unfold Loadable
  infer_instance

/-- The text that a call loads in place of the one loaded before. -/
def loadedBy (text : Bytes) : Op → Bytes
  | .reloadServers (some file) => if Loadable file then file else text
  | _ => text

/-- The last text that was loaded, empty while there is none. -/
def lastLoaded (ops : List Op) : Bytes := ops.foldl loadedBy []

@[simp] theorem list_selectServer (c : RuntimeCfg) (index : UInt32) : (c.selectServer index).1.list = c.list := by
  unfold selectServer
  split <;> rfl

@[simp] theorem list_reloadServers (c : RuntimeCfg) (file : Option Bytes) : (c.reloadServers file).1.list =
    match readConfigText file 4096 with
    | none => c.list
    | some buf => slpnxServersParse buf := by
  unfold reloadServers
  cases readConfigText file 4096 <;> rfl

theorem readConfigText_of_loadable {text : Bytes} (h : Loadable text) : readConfigText (some text) 4096 = some text :=
  if_pos h

theorem readConfigText_of_not_loadable {text : Bytes} (h : ¬ Loadable text) : readConfigText (some text) 4096 = none :=
  if_neg h

theorem list_step {c : RuntimeCfg} {text : Bytes} (h : c.list = slpnxServersParse text) (op : Op) :
    (c.step op).list = slpnxServersParse (loadedBy text op) := by
  cases op with
  | selectServer index => rw [step, list_selectServer]; exact h
  | reloadServers file =>
    rw [step, list_reloadServers]
    cases file with
    | none => exact h
    | some file =>
      by_cases hl : Loadable file
      · simp only [loadedBy, readConfigText_of_loadable hl, if_pos hl]
      · simp only [loadedBy, readConfigText_of_not_loadable hl, if_neg hl, h]

theorem list_run {c : RuntimeCfg} {text : Bytes} (h : c.list = slpnxServersParse text) (ops : List Op) :
    (c.run ops).list = slpnxServersParse (ops.foldl loadedBy text) := by
  induction ops generalizing c text with
  | nil => exact h
  | cons op ops ih => exact ih (list_step h op)

/-- **The sysmodule's list is that of the last text it loaded.** -/
theorem list_eq (ops : List Op) : (run {} ops).list = slpnxServersParse (lastLoaded ops) := list_run rfl ops

theorem selected_selectServer {c : RuntimeCfg} {index : UInt32} (h : index.toNat < c.list.count) :
    (c.selectServer index).2 = true ∧ (c.selectServer index).1.selected = c.list.get index.toNat := by
  have hfits := c.list.fits
  have hcount : c.list.count = c.list.entries.length := rfl
  have hten : SLPNXCFG_MAX_SERVERS = 10 := rfl
  have hint : index.toInt32.toInt = index.toNat := BitVec.toInt_eq_toNat_of_lt (by
    show 2 * index.toNat < 2 ^ 32
    omega)
  have hlt : ¬ index.toInt32.toInt ≥ c.list.count := by omega
  constructor
  · rw [selectServer, if_neg hlt]
  · rw [selectServer, if_neg hlt, selected, hint]

end RuntimeCfg

/-- The two processes: the sysmodule and the overlay, whose list is empty when it starts. -/
structure Processes where
  sysmodule : RuntimeCfg
  overlay : ServerList := ⟨[], by decide⟩

/-- `initServices` of the overlay: the sysmodule reloads the file, then the overlay loads it. -/
def RuntimeCfg.initServices (c : RuntimeCfg) (file : Option Bytes) : Processes where
  sysmodule := (c.reloadServers file).1
  overlay := slpnxServersLoad ⟨[], by decide⟩ file

namespace Processes

/-- The lists have the same length and the same server at every index, so that the server at an index of the overlay's list
is the one that `SelectServer` of that index selects. -/
structure SameList (P : Processes) : Prop where
  count : P.overlay.count = P.sysmodule.list.count
  get : ∀ index, P.overlay.get index = P.sysmodule.list.get index
  select : ∀ index : UInt32, index.toNat < P.overlay.count → (P.sysmodule.selectServer index).2 = true ∧
    (P.sysmodule.selectServer index).1.selected = P.overlay.get index.toNat

theorem sameList_iff_eq (P : Processes) : P.SameList ↔ P.overlay = P.sysmodule.list := by
  constructor
  · intro h
    apply ServerList.ext
    apply List.ext_getElem?
    intro i
    have hcount := h.count
    have hget := h.get i
    simp only [ServerList.get, hcount] at hget
    by_cases hi : i < P.sysmodule.list.count
    · have hni : ¬ ((i : Int) < 0 ∨ (i : Int) ≥ P.sysmodule.list.count) := by omega
      rw [if_neg hni, if_neg hni] at hget
      simpa using hget
    · rw [List.getElem?_eq_none (hcount.le.trans (by omega)), List.getElem?_eq_none (Nat.le_of_not_lt hi)]
  · intro h
    refine ⟨by rw [h], fun _ => by rw [h], fun index hi => ?_⟩
    rw [h] at hi ⊢
    exact RuntimeCfg.selected_selectServer hi

end Processes

open RuntimeCfg Processes

/-- **The overlay and the sysmodule have the same list exactly when** the sysmodule takes the file, which is either no longer
than what the overlay reads or cut off harmlessly there, or does not take it, and the text it loaded last names the same
servers as the part of the file that the overlay reads. -/
theorem sameList_iff (ops : List RuntimeCfg.Op) (text : Bytes) :
    ((RuntimeCfg.run {} ops).initServices (some text)).SameList ↔
      (Loadable text ∧ (text.length ≤ 1679 ∨ CutHarmless 1679 text)) ∨
      (¬ Loadable text ∧ firstServers (lastLoaded ops) = firstServers (text.take 1679)) := by
  rw [sameList_iff_eq]
  unfold initServices
  simp only [slpnxServersLoad, list_reloadServers]
  have hcap : loadCap - 1 = 1679 := rfl
  rw [hcap]
  by_cases hl : Loadable text
  · rw [readConfigText_of_loadable hl]
    simp only [hl, true_and, not_true_eq_false, false_and, or_false]
    rw [parse_take_iff]
    constructor
    · exact Or.inr
    · rintro (h | h)
      · rw [← parse_take_iff, List.take_of_length_le h]
      · exact h
  · rw [readConfigText_of_not_loadable hl, list_eq]
    simp only [hl, false_and, false_or, not_false_eq_true, true_and]
    rw [eq_comm, ServerList.ext_iff, entries_parse, entries_parse]

namespace Processes

/-- The line "a b 1". -/
def oneServer : Bytes := [97, 32, 98, 32, 49, 10]

/-- A comment of 1700 bytes, and then the server. -/
def longComment : Bytes := 35 :: List.replicate 1699 97 ++ newline :: oneServer

/-- **The sysmodule keeps the server of a file that has been emptied, and has a server that the overlay does not read.** -/
theorem lists_differ :
    ¬ ((RuntimeCfg.run {} [.reloadServers (some oneServer)]).initServices (some [])).SameList ∧
    ((RuntimeCfg.run {} [.reloadServers (some oneServer)]).initServices (some [])).overlay.count = 0 ∧
    ((RuntimeCfg.run {} [.reloadServers (some oneServer)]).initServices (some [])).sysmodule.list.count = 1 ∧
    ¬ ((RuntimeCfg.run {} [.reloadServers none]).initServices (some longComment)).SameList ∧
    ((RuntimeCfg.run {} [.reloadServers none]).initServices (some longComment)).overlay.count = 0 ∧
    ((RuntimeCfg.run {} [.reloadServers none]).initServices (some longComment)).sysmodule.list.count = 1 := by
  refine ⟨fun h => absurd h.count (by decide +kernel), by decide +kernel, by decide +kernel,
    fun h => absurd h.count (by decide +kernel), by decide +kernel, by decide +kernel⟩

end Processes
end Slp
