import SwitchLanPlay.ServerLines
/-!
# ServerFile — the documented form of servers.conf

A line of the file writes a server as `<name> <host> <port>` or `<name> <host:port>`, with runs of spaces and tabs between the
fields and around them, and may end in a comment or a carriage return; other lines are blank or a comment.  The parser reads the
first ten servers back (`parse_render`).
-/
namespace Slp

open Wire CStrings

namespace Servers

def IsGap (s : Bytes) : Prop := ∀ c ∈ s, c = 32 ∨ c = 9

instance (s : Bytes) : Decidable (IsGap s) := List.decidableBAll (fun c => c = 32 ∨ c = 9) s

/-- A field as the file writes it. -/
structure IsField (s : Bytes) : Prop where
  ne_nil : s ≠ []
  word : IsWord s
  no_hash : 35 ∉ s

instance (s : Bytes) : Decidable (IsField s) :=
  have : Decidable (IsWord s) := List.decidableBAll (fun c => isspace c = false) s
  decidable_of_iff (s ≠ [] ∧ IsWord s ∧ 35 ∉ s) ⟨fun h => ⟨h.1, h.2.1, h.2.2⟩, fun h => ⟨h.1, h.2, h.3⟩⟩

/-- A server that the file can write. -/
structure Writable (srv : SlpNxServer) : Prop where
  name : IsField srv.name.bytes
  host : IsField srv.host.bytes
  host_le : srv.host.bytes.length ≤ 121
  port_pos : 0 < srv.port.toNat

/-- What stands between the host and the port. -/
inductive PortSep where
  | colon
  | gap (s : Bytes) (hne : s ≠ []) (hgap : IsGap s)

def PortSep.bytes : PortSep → Bytes
  | .colon => [58]
  | .gap s _ _ => s

/-- What ends a line. -/
inductive LineEnd where
  | nothing
  | carriageReturn
  | comment (text : Bytes) (h : newline ∉ text)

def LineEnd.bytes : LineEnd → Bytes
  | .nothing => []
  | .carriageReturn => [13]
  | .comment text _ => 35 :: text

/-- A line that writes a server.  Up to the port it has at most 167 bytes. -/
structure ServerLine where
  srv : SlpNxServer
  writable : Writable srv
  lead : Bytes
  lead_gap : IsGap lead
  sep : Bytes
  sep_ne_nil : sep ≠ []
  sep_gap : IsGap sep
  portSep : PortSep
  trail : Bytes
  trail_gap : IsGap trail
  ending : LineEnd
  fits : (lead ++ srv.name.bytes ++ sep ++ srv.host.bytes ++ portSep.bytes ++ digitsText srv.port.toNat).length < lineCap

/-- A line of whitespace, or whitespace before a comment. -/
structure FillerLine where
  blank : Bytes
  isBlank : IsBlank blank
  no_newline : newline ∉ blank
  ending : LineEnd

inductive Line where
  | server (l : ServerLine)
  | filler (l : FillerLine)

namespace ServerLine

variable (l : ServerLine)

def body : Bytes :=
  l.lead ++ l.srv.name.bytes ++ l.sep ++ l.srv.host.bytes ++ l.portSep.bytes ++ digitsText l.srv.port.toNat

def bytes : Bytes := l.body ++ (l.trail ++ l.ending.bytes)

end ServerLine

namespace Line

def bytes : Line → Bytes
  | .server l => l.bytes
  | .filler l => l.blank ++ l.ending.bytes

def server? : Line → Option SlpNxServer
  | .server l => some l.srv
  | .filler _ => none

end Line

/-- A file of lines that end in a newline, and perhaps one more that does not. -/
def render (ls : List Line) (last : Option Line) : Bytes :=
  ls.flatMap (fun l => l.bytes ++ [newline]) ++ (last.map Line.bytes).getD []

/-! ## The bytes of a line -/

theorem IsGap.isBlank {s : Bytes} (h : IsGap s) : IsBlank s := by
  intro c hc
  rcases h c hc with rfl | rfl <;> decide

theorem IsGap.not_mem {s : Bytes} (h : IsGap s) {c : UInt8} (hs : c ≠ 32) (ht : c ≠ 9) : c ∉ s := by
  intro hc
  rcases h c hc with rfl | rfl
  · exact hs rfl
  · exact ht rfl

theorem not_mem_word {s : Bytes} (h : IsWord s) {c : UInt8} (hc : isspace c = true) : c ∉ s := by
  intro hmem
  rw [h c hmem] at hc
  cases hc

theorem isWord_digitsText (n : Nat) : IsWord (digitsText n) := fun _ hc => isspace_of_isdigit (isdigit_of_mem_digitsText hc)

theorem not_mem_digitsText {c : UInt8} (hc : isdigit c = false) (n : Nat) : c ∉ digitsText n := by
  intro hmem
  rw [isdigit_of_mem_digitsText hmem] at hc
  cases hc

theorem PortSep.not_mem (p : PortSep) {c : UInt8} (hs : c ≠ 32) (ht : c ≠ 9) (hcolon : c ≠ 58) : c ∉ p.bytes := by
  cases p with
  | colon => simpa [PortSep.bytes] using hcolon
  | gap s _ hgap => exact hgap.not_mem hs ht

/-- **A byte that is no gap, no digit and no colon stands in the body only in a field.** -/
theorem ServerLine.not_mem_body (l : ServerLine) {c : UInt8} (hs : c ≠ 32) (ht : c ≠ 9) (hcolon : c ≠ 58)
    (hdigit : isdigit c = false) (hname : c ∉ l.srv.name.bytes) (hhost : c ∉ l.srv.host.bytes) : c ∉ l.body := by
  simp only [body, List.mem_append, not_or]
  exact ⟨⟨⟨⟨⟨l.lead_gap.not_mem hs ht, hname⟩, l.sep_gap.not_mem hs ht⟩, hhost⟩, l.portSep.not_mem hs ht hcolon⟩,
    not_mem_digitsText hdigit _⟩

theorem LineEnd.newline_not_mem (e : LineEnd) : newline ∉ e.bytes := by
  cases e with
  | nothing => exact List.not_mem_nil
  | carriageReturn => decide
  | comment text h => exact fun hmem => (List.mem_cons.1 hmem).elim (by decide) h

theorem LineEnd.isBlank_uncommented (e : LineEnd) {blank : Bytes} (h : IsBlank blank) :
    IsBlank ((blank ++ e.bytes).takeWhile (· != 35)) := by
  have hne : ∀ c ∈ blank, (c != 35) = true := by
    intro c hc
    rw [bne_iff_ne]
    rintro rfl
    exact absurd (h 35 hc) (by decide)
  rw [List.takeWhile_append_of_pos hne]
  intro c hc
  rcases List.mem_append.1 hc with hc | hc
  · exact h c hc
  · cases e with
    | nothing => cases hc
    | carriageReturn => rw [List.mem_singleton.1 hc]; decide
    | comment text _ => simp [LineEnd.bytes] at hc

/-- **What the parser sees of a body and a blank end** is the body and blanks. -/
theorem seen_append {body tail : Bytes} (hbody : body.length < lineCap) (hnul : 0 ∉ body) (hhash : 35 ∉ body)
    (htail : IsBlank (tail.takeWhile (· != 35))) : ∃ blank, seen (body ++ tail) = body ++ blank ∧ IsBlank blank := by
  have hcap : lineCap = 168 := rfl
  have hnul' : ∀ c ∈ body, (c != 0) = true := fun c hc => bne_iff_ne.2 (fun he => hnul (he ▸ hc))
  have hhash' : ∀ c ∈ body, (c != 35) = true := fun c hc => bne_iff_ne.2 (fun he => hhash (he ▸ hc))
  refine ⟨(cstr (tail.take (lineCap - 1 - body.length))).takeWhile (· != 35), ?_, ?_⟩
  · rw [seen, List.take_append, List.take_of_length_le (show body.length ≤ lineCap - 1 by omega), cstr,
      List.takeWhile_append_of_pos hnul', List.takeWhile_append_of_pos hhash']
    rfl
  · have hprefix : cstr (tail.take (lineCap - 1 - body.length)) <+: tail :=
      (List.takeWhile_prefix _).trans (List.take_prefix _ _)
    exact fun c hc => htail c ((takeWhile_prefix_takeWhile hprefix).subset hc)

/-! ## Lines read back -/

theorem scanned_of_fits : ∀ {ns : List Nat} {ts : List Bytes}, FitsIn ns ts → scanned ns ts = ts.take ns.length
  | [], ts, _ => by cases ts <;> rfl
  | _ :: _, [], _ => rfl
  | n :: ns, t :: ts, h => by
    rw [scanned, if_pos h.1, List.take_of_length_le h.1, scanned_of_fits h.2, List.length_cons, List.take_succ_cons]

theorem ServerLine.tokens_body (l : ServerLine) {blank : Bytes} (hblank : IsBlank blank) :
    tokens (l.body ++ blank) = l.srv.name.bytes ::
      match l.portSep with
      | .colon => [l.srv.host.bytes ++ 58 :: digitsText l.srv.port.toNat]
      | .gap _ _ _ => [l.srv.host.bytes, digitsText l.srv.port.toNat] := by
  have hstop : ∀ {s rest : Bytes}, s ≠ [] → IsGap s → startsToken (s ++ rest) = false := by
    intro s rest hne hgap
    cases s with
    | nil => exact absurd rfl hne
    | cons c s =>
      show (!isspace c) = false
      rw [hgap.isBlank c List.mem_cons_self]
      rfl
  have hport := tokens_self (digitsText_ne_nil l.srv.port.toNat) (isWord_digitsText _)
  rw [tokens_append_blank _ hblank, body]
  cases hsep : l.portSep with
  | colon =>
    have hhost : IsWord (l.srv.host.bytes ++ 58 :: digitsText l.srv.port.toNat) := by
      intro c hc
      rcases List.mem_append.1 hc with hc | hc
      · exact l.writable.host.word c hc
      · rcases List.mem_cons.1 hc with rfl | hc
        · decide
        · exact isWord_digitsText _ c hc
    have hlast := tokens_self (List.append_ne_nil_of_right_ne_nil _ (List.cons_ne_nil _ _)) hhost
    simp only [PortSep.bytes, List.append_assoc, List.singleton_append]
    rw [tokens_blank l.lead_gap.isBlank, tokens_word l.writable.name.ne_nil l.writable.name.word
      (hstop l.sep_ne_nil l.sep_gap), tokens_blank l.sep_gap.isBlank, hlast]
  | gap s hne hgap =>
    simp only [PortSep.bytes, List.append_assoc]
    rw [tokens_blank l.lead_gap.isBlank, tokens_word l.writable.name.ne_nil l.writable.name.word
      (hstop l.sep_ne_nil l.sep_gap), tokens_blank l.sep_gap.isBlank, tokens_word l.writable.host.ne_nil l.writable.host.word
      (hstop hne hgap), tokens_blank hgap.isBlank, hport]

theorem strtol_digitsText {n : Nat} (hpos : 0 < n) (hmax : n < 65536) : strtol (digitsText n) = n := by
  have hlong : LONG_MAX = 9223372036854775807 := rfl
  exact (strtol_eq (by omega) (by omega)).2 (scanDecimal_of_decimalValue (decimalValue_digitsText n))

/-- **Both forms of a line are split into its server's fields.** -/
theorem ServerLine.splitTokens_body (l : ServerLine) {blank : Bytes} (hblank : IsBlank blank) :
    splitTokens (tokens (l.body ++ blank)) = some (l.srv.name.bytes, l.srv.host.bytes, (l.srv.port.toNat : Int)) := by
  have hlt := l.srv.port.toNat_lt
  have hname := Nat.le_of_lt_succ l.srv.name.fits
  have hhost := l.writable.host_le
  have hport := length_digitsText_le (n := l.srv.port.toNat) (k := 5) (by decide) (by omega)
  have hstrtol := strtol_digitsText l.writable.port_pos (by omega)
  rw [l.tokens_body hblank]
  cases l.portSep with
  | colon =>
    have hfits : (l.srv.host.bytes ++ 58 :: digitsText l.srv.port.toNat).length ≤ 127 := by
      rw [List.length_append, List.length_cons]
      omega
    have hcolon := strrchr_eq_some.2
      ⟨rfl (a := l.srv.host.bytes ++ 58 :: digitsText l.srv.port.toNat), not_mem_digitsText (c := 58) (by decide) _⟩
    have hthree : FitsIn [31, 127, 7] [l.srv.name.bytes, l.srv.host.bytes ++ 58 :: digitsText l.srv.port.toNat] :=
      ⟨hname, hfits, trivial⟩
    have htwo : FitsIn [31, 127] [l.srv.name.bytes, l.srv.host.bytes ++ 58 :: digitsText l.srv.port.toNat] :=
      ⟨hname, hfits, trivial⟩
    dsimp only
    unfold splitTokens
    rw [scanned_of_fits hthree, scanned_of_fits htwo]
    simp only [List.length_cons, List.length_nil, List.take_succ_cons, List.take_nil, hcolon, hstrtol]
  | gap s _ _ =>
    have hthree : FitsIn [31, 127, 7] [l.srv.name.bytes, l.srv.host.bytes, digitsText l.srv.port.toNat] :=
      ⟨hname, by omega, by omega, trivial⟩
    dsimp only
    unfold splitTokens
    rw [scanned_of_fits hthree]
    simp only [List.length_cons, List.length_nil, List.take_succ_cons, List.take_nil, hstrtol]

theorem strncpy_self {cap : Nat} (hcap : 0 < cap) (s : CStr cap) : strncpy cap hcap s.bytes = s := by
  have hbytes := strncpy_bytes hcap s.fits s.no_nul
  obtain ⟨bytes, hfits, hnul⟩ := s
  cases h : strncpy cap hcap bytes
  rw [h] at hbytes
  cases hbytes
  rfl

theorem server_of_fields (srv : SlpNxServer) (hname : 0 < SLPNXCFG_NAME_MAX) (hhost : 0 < SLPNXCFG_HOST_MAX) :
    (⟨strncpy _ hname srv.name.bytes, strncpy _ hhost srv.host.bytes, UInt16.ofNat (srv.port.toNat : Int).toNat⟩ : SlpNxServer) =
      srv := by
  rw [strncpy_self, strncpy_self, Int.toNat_natCast, UInt16.ofNat_toNat]

/-- **A server's line gives the server.** -/
theorem readLine_server (l : ServerLine) : readLine l.bytes = some l.srv := by
  have hnul : 0 ∉ l.body :=
    l.not_mem_body (by decide) (by decide) (by decide) (by decide) l.srv.name.no_nul l.srv.host.no_nul
  have hhash : 35 ∉ l.body :=
    l.not_mem_body (by decide) (by decide) (by decide) (by decide) l.writable.name.no_hash l.writable.host.no_hash
  have hfits : l.body.length < lineCap := l.fits
  obtain ⟨blank, hseen, hblank⟩ := seen_append hfits hnul hhash (l.ending.isBlank_uncommented l.trail_gap.isBlank)
  have hlt := l.srv.port.toNat_lt
  have hpos := l.writable.port_pos
  rw [readLine_eq, show l.bytes = l.body ++ (l.trail ++ l.ending.bytes) from rfl, hseen, l.splitTokens_body hblank]
  dsimp only
  exact (if_neg (by omega)).trans (congrArg some (server_of_fields l.srv _ _))

theorem readLine_filler (l : FillerLine) : readLine (l.blank ++ l.ending.bytes) = none := by
  have hnil : ([] : Bytes).length < lineCap := by decide
  obtain ⟨blank, hseen, hblank⟩ := seen_append hnil List.not_mem_nil List.not_mem_nil
    (l.ending.isBlank_uncommented l.isBlank)
  rw [List.nil_append] at hseen
  rw [readLine_eq, hseen, List.nil_append, tokens_of_blank hblank]
  rfl

theorem readLine_line (l : Line) : readLine l.bytes = l.server? := by
  cases l with
  | server l => exact readLine_server l
  | filler l => exact readLine_filler l

/-! ## The file read back -/

theorem Line.newline_not_mem (l : Line) : newline ∉ l.bytes := by
  cases l with
  | server l =>
    have hname := not_mem_word l.writable.name.word (c := newline) (by decide)
    have hhost := not_mem_word l.writable.host.word (c := newline) (by decide)
    simp only [bytes, ServerLine.bytes, List.mem_append, not_or]
    exact ⟨l.not_mem_body (by decide) (by decide) (by decide) (by decide) hname hhost,
      l.trail_gap.not_mem (by decide) (by decide), l.ending.newline_not_mem⟩
  | filler l =>
    simp only [bytes, List.mem_append, not_or]
    exact ⟨l.no_newline, l.ending.newline_not_mem⟩

theorem lines_closed : ∀ {b : Bytes}, newline ∉ b → lines (b ++ [newline]) = [b]
  | [], _ => rfl
  | c :: b, h => by
    obtain ⟨hc, hb⟩ := not_or.1 (mt List.mem_cons.2 h)
    rw [List.cons_append, lines, if_neg (Ne.symm hc), lines_closed hb]
    rfl

/-- **The lines of the file name its servers.** -/
theorem named_render : ∀ (ls : List Line) (last : Option Line),
    named (lines (render ls last)) = (ls ++ last.toList).filterMap Line.server?
  | [], none => rfl
  | [], some l => by
    show named (lines l.bytes) = [l].filterMap Line.server?
    have hread := readLine_line l
    rw [List.filterMap_cons, List.filterMap_nil]
    by_cases hnil : l.bytes = []
    · rw [hnil] at hread ⊢
      rw [← hread]
      rfl
    · rw [lines_of_open l.newline_not_mem hnil, named, List.filterMap_cons, List.filterMap_nil, hread]
  | l :: ls, last => by
    have ih := named_render ls last
    have hsplit : render (l :: ls) last = l.bytes ++ newline :: render ls last := by
      rw [render, List.flatMap_cons, List.append_assoc, List.append_assoc]
      rfl
    rw [hsplit, lines_append_newline, lines_closed l.newline_not_mem, named_append, ih, named, List.filterMap_cons,
      List.filterMap_nil, readLine_line, List.cons_append, List.filterMap_cons]
    cases l.server? <;> rfl

/-- **The file reads back**: the entries are the servers its lines write, in order, and of more than ten the first ten. -/
theorem parse_render (ls : List Line) (last : Option Line) :
    (slpnxServersParse (render ls last)).entries =
      ((ls ++ last.toList).filterMap Line.server?).take SLPNXCFG_MAX_SERVERS := by
  rw [entries_parse, firstServers, named_render]

def ascii (s : String) : Bytes := s.toList.map fun c => UInt8.ofNat c.toNat

def localSrv : SlpNxServer := ⟨⟨ascii "local", by decide, by decide⟩, ⟨ascii "10.233.41.153", by decide, by decide⟩, 11451⟩

def brazilSrv : SlpNxServer :=
  ⟨⟨ascii "Brazil", by decide, by decide⟩, ⟨ascii "muitxobem-lanplay.ddns.net", by decide, by decide⟩, 11456⟩

def localLine : ServerLine where
  srv := localSrv
  writable := ⟨by decide, by decide, by decide, by decide⟩
  lead := []
  lead_gap := nofun
  sep := [32, 9, 32]
  sep_ne_nil := by decide
  sep_gap := by decide
  portSep := .colon
  trail := []
  trail_gap := nofun
  ending := .comment (ascii " the relay at home") (by decide)
  fits := by decide +kernel

def brazilLine : ServerLine where
  srv := brazilSrv
  writable := ⟨by decide, by decide, by decide, by decide⟩
  lead := [32]
  lead_gap := by decide
  sep := [32]
  sep_ne_nil := by decide
  sep_gap := by decide
  portSep := .gap [32, 32] (by decide) (by decide)
  trail := [32]
  trail_gap := by decide
  ending := .carriageReturn
  fits := by decide +kernel

def commentLine : FillerLine := ⟨[], nofun, nofun, .comment (ascii " relays") (by decide)⟩

/-- Both forms of a line, behind a comment. -/
theorem parse_render_relays : (slpnxServersParse (ascii
    "# relays\nlocal \t 10.233.41.153:11451# the relay at home\n Brazil muitxobem-lanplay.ddns.net  11456 \r")).entries =
      [localSrv, brazilSrv] := by
  have htext : render [.filler commentLine, .server localLine] (some (.server brazilLine)) = ascii
      "# relays\nlocal \t 10.233.41.153:11451# the relay at home\n Brazil muitxobem-lanplay.ddns.net  11456 \r" := by
    decide +kernel
  rw [← htext]
  exact parse_render [.filler commentLine, .server localLine] (some (.server brazilLine))

end Servers
end Slp
