import SwitchLanPlay.CStrings
/-!
# Servers — the list of relay servers

`servers.c` is built into the sysmodule and, from a copy, into the overlay.  The parser reads a text line by line, takes at
most 167 bytes of each, and fills a table of ten.
-/
namespace Slp

open Wire CStrings

def SLPNXCFG_MAX_SERVERS : Nat := 10

def SLPNXCFG_NAME_MAX : Nat := 32

def SLPNXCFG_HOST_MAX : Nat := 128

structure SlpNxServer where
  name : CStr SLPNXCFG_NAME_MAX
  host : CStr SLPNXCFG_HOST_MAX
  port : UInt16
deriving DecidableEq

/-- `g_servers` up to `g_count`. -/
@[ext] structure ServerList where
  entries : List SlpNxServer
  fits : entries.length ≤ SLPNXCFG_MAX_SERVERS
deriving DecidableEq

namespace Servers

def defaultPort : Int := 11451

/-- The size of a line's buffer. -/
def lineCap : Nat := SLPNXCFG_NAME_MAX + SLPNXCFG_HOST_MAX + 8

def trim (s : Bytes) : Bytes := s.rdropWhile (fun c => c == 10 || c == 13 || c == 32 || c == 9)

/-- The three fields of a line, `none` when it does not name a server. -/
def splitFields (line : Bytes) : Option (Bytes × Bytes × Int) :=
  match scanTokens [31, 127, 7] line with
  | [name, host, portstr] => some (name, host, strtol portstr)
  | _ =>
    match scanTokens [31, 127] line with
    | [name, host] =>
      match strrchr 58 host with
      | some (pre, post) => some (name, pre, strtol post)
      | none => some (name, host, defaultPort)
    | _ => none

/-- `parse_line` on a line's buffer. -/
def parseLine (line : Bytes) : Option SlpNxServer :=
  let line := trim ((cstr line).takeWhile (· != 35))
  if line = [] then none
  else
    match splitFields line with
    | none => none
    | some (name, host, port) =>
      if port < 1 ∨ port > 65535 then none
      else some ⟨strncpy _ (by decide) name, strncpy _ (by decide) host, UInt16.ofNat port.toNat⟩

/-- A line of the text, as much of it as the line's buffer takes. -/
def readLine (line : Bytes) : Option SlpNxServer := parseLine (line.take (lineCap - 1))

/-- The loop over the lines, with room for `n` more servers. -/
def parseLines : Nat → List Bytes → List SlpNxServer
  | 0, _ => []
  | _ + 1, [] => []
  | n + 1, line :: rest =>
    match readLine line with
    | some srv => srv :: parseLines n rest
    | none => parseLines (n + 1) rest

/-- **The loop keeps the first servers that the lines name.** -/
theorem parseLines_eq : ∀ (n : Nat) (ls : List Bytes), parseLines n ls = (ls.filterMap readLine).take n
  | 0, _ => by simp [parseLines]
  | _ + 1, [] => by simp [parseLines]
  | n + 1, l :: ls => by
    unfold parseLines
    cases h : readLine l with
    | none => simp [h, parseLines_eq (n + 1) ls]
    | some srv => simp [h, parseLines_eq n ls]

def slpnxServersParse (text : Bytes) : ServerList where
  entries := parseLines SLPNXCFG_MAX_SERVERS (lines text)
  fits := by
    rw [parseLines_eq]
    exact List.length_take_le _ _

/-- The size of the overlay's buffer for the file. -/
def loadCap : Nat := SLPNXCFG_MAX_SERVERS * lineCap

/-- The overlay reads as much of the file as its buffer takes.  The list stays when there is no file. -/
def slpnxServersLoad (list : ServerList) (file : Option Bytes) : ServerList :=
  match file with
  | none => list
  | some text => slpnxServersParse (text.take (loadCap - 1))

/-! ## The list of a text that is cut off -/

/-- The servers that some lines name. -/
def named (ls : List Bytes) : List SlpNxServer := ls.filterMap readLine

/-- The first ten servers that the lines of a text name. -/
def firstServers (text : Bytes) : List SlpNxServer := (named (lines text)).take SLPNXCFG_MAX_SERVERS

theorem entries_parse (text : Bytes) : (slpnxServersParse text).entries = firstServers text := parseLines_eq _ _

theorem named_append (ls ls' : List Bytes) : named (ls ++ ls') = named ls ++ named ls' := List.filterMap_append ..

/-- The list does not miss what follows the first `n` bytes of the text.  Either ten servers are named before the line that
the cut goes through, or the part of that line before the cut and the lines from it on name the same servers, as far as there
is room: none, or one and the same first. -/
def CutHarmless (n : Nat) (text : Bytes) : Prop :=
  let before := (named (closedLines (text.take n))).length
  let onwards := named (lines (openLine (text.take n) ++ text.drop n))
  SLPNXCFG_MAX_SERVERS ≤ before ∨
    match readLine (openLine (text.take n)) with
    | none => onwards = []
    | some srv => onwards.head? = some srv ∧ (before + 1 = SLPNXCFG_MAX_SERVERS ∨ onwards.length = 1)

theorem named_openLine (a : Bytes) : named (lines (openLine a)) = (readLine (openLine a)).toList := by
  rcases Decidable.em (openLine a = []) with h | h
  · rw [h]; rfl
  · rw [lines_of_open (not_mem_openLine a) h]
    cases hr : readLine (openLine a) with
    | none => simp [named, hr]
    | some srv => simp [named, hr]

theorem take_eq_singleton_iff {l : List SlpNxServer} {srv : SlpNxServer} {r : Nat} (hr : 0 < r) :
    l.take r = [srv] ↔ l.head? = some srv ∧ (r = 1 ∨ l.length = 1) := by
  obtain ⟨r, rfl⟩ : ∃ n, r = n + 1 := ⟨r - 1, by omega⟩
  cases l with
  | nil => simp
  | cons a l =>
    simp only [List.take_succ_cons, List.cons.injEq, List.head?_cons, Option.some.injEq, List.length_cons]
    apply and_congr Iff.rfl
    rw [List.take_eq_nil_iff, ← List.length_eq_zero_iff]
    omega

/-- **A text and its first `n` bytes give the same list exactly when the cut is harmless.** -/
theorem parse_take_iff (n : Nat) (text : Bytes) :
    slpnxServersParse (text.take n) = slpnxServersParse text ↔ CutHarmless n text := by
  have hcut : named (lines (text.take n)) =
      named (closedLines (text.take n)) ++ (readLine (openLine (text.take n))).toList := by
    conv_lhs => rw [← List.append_nil (text.take n), lines_cut, List.append_nil]
    rw [named_append, named_openLine]
  have hall : named (lines text) = named (closedLines (text.take n)) ++
      named (lines (openLine (text.take n) ++ text.drop n)) := by
    conv_lhs => rw [← List.take_append_drop n text, lines_cut]
    exact named_append _ _
  rw [ServerList.ext_iff, entries_parse, entries_parse, firstServers, firstServers, hcut, hall, List.take_append, List.take_append,
    List.append_cancel_left_eq]
  unfold CutHarmless
  generalize (named (closedLines (text.take n))).length = before
  generalize named (lines (openLine (text.take n) ++ text.drop n)) = onwards
  rcases Nat.lt_or_ge before SLPNXCFG_MAX_SERVERS with hb | hb
  · have hr : 0 < SLPNXCFG_MAX_SERVERS - before := by omega
    have hlt : ¬ SLPNXCFG_MAX_SERVERS ≤ before := by omega
    simp only [hlt, false_or]
    cases readLine (openLine (text.take n)) with
    | none =>
      simp only [Option.toList_none, List.take_nil]
      rw [eq_comm, List.take_eq_nil_iff]
      simp [hr.ne']
    | some srv =>
      have hone : [srv].take (SLPNXCFG_MAX_SERVERS - before) = [srv] := List.take_of_length_le hr
      have hlast : before + 1 = SLPNXCFG_MAX_SERVERS ↔ SLPNXCFG_MAX_SERVERS - before = 1 := by omega
      simp only [Option.toList_some, hone, hlast]
      rw [eq_comm, take_eq_singleton_iff hr]
  · have hr : SLPNXCFG_MAX_SERVERS - before = 0 := by omega
    simp [hr, hb]

end Servers
end Slp
