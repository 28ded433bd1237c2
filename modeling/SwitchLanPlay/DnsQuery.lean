import Mathlib.Algebra.Group.Nat.Defs
import Mathlib.Data.List.TakeWhile
import SwitchLanPlay.DnsMessage
/-!
# DnsQuery — the builder of DNS queries (source/relay_bridge.hpp)

`dnsBuildQuery` writes a query for a host's address into a packet of `cap` bytes, with every store checked.  The name may fill
the packet but for three bytes (`dnsEncodeName_eq`), and no test leaves room for the four of QTYPE and QCLASS behind its root.
The builder keeps its promise exactly where this does not matter (`encodesQuery_iff`).
-/
namespace Slp

open Wire DnsMessage

def dot : UInt8 := 46

section Builder

variable {cap : Nat}

/-- The loop over the labels, which stand at `base` in the packet; without a position, `return 0`. -/
def encodeLabelLoop (base nameCap : Nat) : Nat → Bytes → Nat → ByteArr cap → Option (ByteArr cap × Option Nat)
  | 0, _, pos, out => some (out, some pos)
  | turns + 1, label, pos, out =>
    if label = [] then some (out, some pos)
    else
      let text := label.takeWhile (· != dot)
      if text.length = 0 ∨ 63 < text.length ∨ nameCap < pos + text.length + 2 then some (out, none)
      else do
        let out ← out.store (base + pos) [UInt8.ofNat text.length]
        let out ← out.store (base + (pos + 1)) text
        match label.dropWhile (· != dot) with
        | [] => return (out, some (pos + 1 + text.length))
        | _ :: rest => encodeLabelLoop base nameCap turns rest (pos + 1 + text.length) out

/-- `DnsEncodeName` to `packet + base`.  Every turn takes a byte of the host at least. -/
def dnsEncodeName (host : Bytes) (base nameCap : Nat) (packet : ByteArr cap) : Option (ByteArr cap × Nat) := do
  let (out, pos) ← encodeLabelLoop base nameCap host.length host 0 packet
  match pos with
  | none => return (out, 0)
  | some pos =>
    if nameCap < pos + 2 then return (out, 0)
    let out ← out.store (base + pos) [0x00]
    return (out, pos + 1)

/-- `DnsBuildQuery`: the packet and the `int` returned. -/
def dnsBuildQuery (host : Bytes) (id : UInt16) (packet : ByteArr cap) : Option (ByteArr cap × Int) := do
  let (packet, nameLen) ← dnsEncodeName host 12 (if 12 < cap then cap - 12 else 0) packet
  if nameLen = 0 then return (packet, -1)
  let packet ← packet.store 0 (be16 id ++ [0x01, 0x00, 0x00, 0x01, 0x00, 0x00, 0x00, 0x00, 0x00, 0x00])
  let pos := 12 + nameLen
  let packet ← packet.store pos [0x00, 0x01]
  let packet ← packet.store (pos + 2) [0x00, 0x01]
  return (packet, (Int32.ofInt (pos + 4 : Nat)).toInt)

end Builder

/-! ## Hosts -/

def dotted (ls : List Label) : Bytes := [dot].intercalate (ls.map Label.bytes)

/-- The host is these labels with single dots between them, and one more dot behind them or none. -/
def Spells (ls : List Label) (host : Bytes) : Prop :=
  (∀ l ∈ ls, dot ∉ l.bytes) ∧ (host = dotted ls ∨ host = dotted ls ++ [dot])

/-- The host as the loop takes it, label by label. -/
inductive Cut : Bytes → List Label → Prop
  | nil : Cut [] []
  | last (l : Label) (h : dot ∉ l.bytes) : Cut l.bytes [l]
  | dot (l : Label) {rest : Bytes} {ls : List Label} (h : Slp.dot ∉ l.bytes) (hrest : Cut rest ls) :
      Cut (l.bytes ++ Slp.dot :: rest) (l :: ls)

theorem dotted_cons (l : Label) {ls : List Label} (h : ls ≠ []) : dotted (l :: ls) = l.bytes ++ dot :: dotted ls := by
  cases ls with
  | nil => exact absurd rfl h
  | cons l' ls => simp [dotted, List.intercalate]

theorem dotted_single (l : Label) : dotted [l] = l.bytes := by simp [dotted, List.intercalate]

theorem Cut.spells {host : Bytes} {ls : List Label} (h : Cut host ls) (hne : ls ≠ []) : Spells ls host := by
  induction h with
  | nil => exact absurd rfl hne
  | last l h =>
    refine ⟨fun l' hl' => ?_, .inl (dotted_single l).symm⟩
    rw [List.mem_singleton.1 hl']
    exact h
  | @dot l rest ls h hrest ih =>
    by_cases hls : ls = []
    · subst hls
      cases hrest
      refine ⟨fun l' hl' => ?_, .inr (by rw [dotted_single])⟩
      rw [List.mem_singleton.1 hl']
      exact h
    · obtain ⟨hdots, hhost⟩ := ih hls
      refine ⟨fun l' hl' => ?_, ?_⟩
      · rcases List.mem_cons.1 hl' with rfl | hmem
        · exact h
        · exact hdots l' hmem
      · rw [dotted_cons l hls]
        rcases hhost with rfl | rfl
        · exact .inl rfl
        · exact .inr (by rw [List.append_assoc]; rfl)

theorem Spells.cut : ∀ {ls : List Label} {host : Bytes}, Spells ls host → ls ≠ [] → Cut host ls
  | [], _, _, hne => absurd rfl hne
  | [l], host, ⟨hdots, hhost⟩, _ => by
    have hl : dot ∉ l.bytes := hdots l List.mem_cons_self
    rw [dotted_single] at hhost
    rcases hhost with rfl | rfl
    · exact .last l hl
    · exact .dot l hl .nil
  | l :: l' :: ls, host, ⟨hdots, hhost⟩, _ => by
    have hl : dot ∉ l.bytes := hdots l List.mem_cons_self
    have hrest : ∀ rest, rest = dotted (l' :: ls) ∨ rest = dotted (l' :: ls) ++ [dot] → Cut rest (l' :: ls) :=
      fun rest h => Spells.cut ⟨fun m hm => hdots m (List.mem_cons_of_mem _ hm), h⟩ (List.cons_ne_nil _ _)
    rw [dotted_cons l (List.cons_ne_nil l' ls)] at hhost
    rcases hhost with rfl | rfl
    · exact .dot l hl (hrest _ (.inl rfl))
    · rw [List.append_assoc, List.cons_append]
      exact .dot l hl (hrest _ (.inr rfl))

theorem Cut.eq_nil {host : Bytes} (h : Cut host []) : host = [] := by
  cases h
  rfl

theorem cut_nil {ls : List Label} (h : Cut [] ls) : ls = [] := by
  generalize hhost : ([] : Bytes) = host at h
  cases h with
  | nil => rfl
  | last l _ => exact absurd hhost.symm l.ne_nil
  | dot l _ _ => simp at hhost

/-! ## The encoder -/

section Encoder

variable {cap base nameCap : Nat}

theorem bne_dot {text : Bytes} (h : dot ∉ text) : ∀ b ∈ text, (b != dot) = true := by
  intro b hb
  rw [bne_iff_ne]
  rintro rfl
  exact h hb

theorem takeWhile_text {text : Bytes} (h : dot ∉ text) : text.takeWhile (· != dot) = text :=
  List.takeWhile_eq_self_iff.2 (bne_dot h)

theorem dropWhile_text {text : Bytes} (h : dot ∉ text) : text.dropWhile (· != dot) = [] :=
  List.dropWhile_eq_nil_iff.2 (bne_dot h)

theorem takeWhile_text_dot {text : Bytes} (h : dot ∉ text) (rest : Bytes) :
    (text ++ dot :: rest).takeWhile (· != dot) = text := by
  rw [List.takeWhile_append_of_pos (bne_dot h), List.takeWhile_cons_of_neg (by simp), List.append_nil]

theorem dropWhile_text_dot {text : Bytes} (h : dot ∉ text) (rest : Bytes) :
    (text ++ dot :: rest).dropWhile (· != dot) = dot :: rest := by
  rw [List.dropWhile_append_of_pos (bne_dot h), List.dropWhile_cons_of_neg (by simp)]

theorem text_cases (host : Bytes) : ∃ text, dot ∉ text ∧ (host = text ∨ ∃ rest, host = text ++ dot :: rest) := by
  refine ⟨host.takeWhile (· != dot), fun h => by simpa using List.mem_takeWhile_imp h, ?_⟩
  have hsplit := List.takeWhile_append_dropWhile (p := (· != dot)) (l := host)
  cases hdrop : host.dropWhile (· != dot) with
  | nil =>
    rw [hdrop, List.append_nil] at hsplit
    exact .inl hsplit.symm
  | cons b rest =>
    have hb : b = dot := by
      have := List.head_dropWhile_not (· != dot) (l := host) (by simp [hdrop])
      simpa [hdrop] using this
    rw [hdrop, hb] at hsplit
    exact .inr ⟨rest, hsplit.symm⟩

/-- The label's two stores make its encoding, when they fit. -/
theorem store_label (hbase : base + nameCap ≤ cap) (l : Label) {pos : Nat} (hroom : pos + l.bytes.length + 2 ≤ nameCap)
    (out : ByteArr cap) :
    (out.store (base + pos) [UInt8.ofNat l.bytes.length] >>= fun out => out.store (base + (pos + 1)) l.bytes) =
      some (out.write (base + pos) l.encode) := by
  rw [ByteArr.store_eq _ (by rw [List.length_singleton]; omega)]
  simp only [Option.bind_eq_bind, Option.bind_some]
  rw [ByteArr.store_eq _ (by omega)]
  exact congrArg some (out.write_append (base + pos) [UInt8.ofNat l.bytes.length] l.bytes)

theorem encodeLabelLoop_last (hbase : base + nameCap ≤ cap) (l : Label) (hdot : dot ∉ l.bytes) {pos : Nat}
    (hroom : pos + l.bytes.length + 2 ≤ nameCap) (turns : Nat) (out : ByteArr cap) :
    encodeLabelLoop base nameCap (turns + 1) l.bytes pos out =
      some (out.write (base + pos) l.encode, some (pos + l.encode.length)) := by
  have hstore := store_label hbase l hroom out
  have hle := l.le_63
  have hpos := l.size_pos
  rw [encodeLabelLoop, if_neg l.ne_nil]
  simp only [takeWhile_text hdot, dropWhile_text hdot]
  rw [if_neg (by omega), ← bind_assoc, hstore, Label.length_encode, Nat.add_comm l.bytes.length 1, ← Nat.add_assoc]
  rfl

theorem encodeLabelLoop_dot (hbase : base + nameCap ≤ cap) (l : Label) (hdot : dot ∉ l.bytes) {pos : Nat}
    (hroom : pos + l.bytes.length + 2 ≤ nameCap) (turns : Nat) (rest : Bytes) (out : ByteArr cap) :
    encodeLabelLoop base nameCap (turns + 1) (l.bytes ++ dot :: rest) pos out =
      encodeLabelLoop base nameCap turns rest (pos + l.encode.length) (out.write (base + pos) l.encode) := by
  have hstore := store_label hbase l hroom out
  have hle := l.le_63
  have hpos := l.size_pos
  rw [encodeLabelLoop, if_neg (by simp)]
  simp only [takeWhile_text_dot hdot, dropWhile_text_dot hdot]
  rw [if_neg (by omega), ← bind_assoc, hstore, Label.length_encode, Nat.add_comm l.bytes.length 1, ← Nat.add_assoc]
  rfl

/-- **The loop cuts a host into labels and writes them**, or gives up; it never leaves the packet. -/
theorem encodeLabelLoop_sound (hbase : base + nameCap ≤ cap) : ∀ (turns : Nat) (host : Bytes) (pos : Nat) (out : ByteArr cap),
    host.length ≤ turns → ∃ out' found, encodeLabelLoop base nameCap turns host pos out = some (out', found) ∧
      ∀ pos', found = some pos' → ∃ ls, Cut host ls ∧ pos' = pos + (encodeLabels ls).length ∧
        out' = out.write (base + pos) (encodeLabels ls)
  | 0, host, pos, out, h => by
    have hnil : host = [] := List.length_eq_zero_iff.1 (Nat.le_zero.1 h)
    refine ⟨out, some pos, rfl, fun pos' hpos' => ⟨[], hnil ▸ .nil, ?_, (out.write_nil _).symm⟩⟩
    cases hpos'
    rfl
  | turns + 1, host, pos, out, h => by
    by_cases hnil : host = []
    · refine ⟨out, some pos, if_pos hnil, fun pos' hpos' => ⟨[], hnil ▸ .nil, ?_, (out.write_nil _).symm⟩⟩
      cases hpos'
      rfl
    obtain ⟨text, hdot, hhost⟩ := text_cases host
    by_cases hok : text.length = 0 ∨ 63 < text.length ∨ nameCap < pos + text.length + 2
    · -- the label is empty, too long or too much for the packet: return 0
      refine ⟨out, none, ?_, fun pos' hpos' => by cases hpos'⟩
      have htext : host.takeWhile (· != dot) = text := by
        rcases hhost with rfl | ⟨rest, rfl⟩
        · exact takeWhile_text hdot
        · exact takeWhile_text_dot hdot rest
      rw [encodeLabelLoop, if_neg hnil]
      simp only [htext]
      exact if_pos hok
    · rw [not_or, not_or, Nat.not_lt, Nat.not_lt] at hok
      obtain ⟨h0, h63, hroom⟩ := hok
      obtain ⟨l, rfl⟩ : ∃ l : Label, l.bytes = text := ⟨⟨text, List.ne_nil_of_length_pos (by omega), h63⟩, rfl⟩
      rcases hhost with rfl | ⟨rest, rfl⟩
      · refine ⟨_, _, encodeLabelLoop_last hbase l hdot hroom turns out, fun pos' hpos' => ⟨[l], .last l hdot, ?_, ?_⟩⟩
        · cases hpos'
          simp
        · simp
      · rw [List.length_append, List.length_cons] at h
        obtain ⟨out', found, hrun, hfound⟩ := encodeLabelLoop_sound hbase turns rest (pos + l.encode.length)
          (out.write (base + pos) l.encode) (by omega)
        refine ⟨out', found, (encodeLabelLoop_dot hbase l hdot hroom turns rest out).trans hrun, fun pos' hpos' => ?_⟩
        obtain ⟨ls, hcut, hpos, hout⟩ := hfound pos' hpos'
        refine ⟨l :: ls, .dot l hdot hcut, ?_, ?_⟩
        · rw [hpos, encodeLabels_cons, List.length_append, Nat.add_assoc]
        · rw [hout, ← Nat.add_assoc, ByteArr.write_append, encodeLabels_cons]

/-- **The loop takes every host that is cut into labels and fits.** -/
theorem encodeLabelLoop_complete (hbase : base + nameCap ≤ cap) {host : Bytes} {ls : List Label} (h : Cut host ls) :
    ∀ (turns pos : Nat) (out : ByteArr cap), host.length ≤ turns → pos + (encodeLabels ls).length + 1 ≤ nameCap →
      encodeLabelLoop base nameCap turns host pos out =
        some (out.write (base + pos) (encodeLabels ls), some (pos + (encodeLabels ls).length)) := by
  induction h with
  | nil =>
    intro turns pos out _ _
    rw [encodeLabels_nil, ByteArr.write_nil]
    cases turns <;> rfl
  | last l hdot =>
    intro turns pos out hturns hroom
    have hpos := l.size_pos
    obtain ⟨t, rfl⟩ : ∃ t, turns = t + 1 := ⟨turns - 1, by omega⟩
    rw [encodeLabels_cons, encodeLabels_nil, List.append_nil, Label.length_encode] at hroom
    rw [encodeLabelLoop_last hbase l hdot (by omega), encodeLabels_cons, encodeLabels_nil, List.append_nil]
  | @dot l rest ls hdot _ ih =>
    intro turns pos out hturns hroom
    rw [List.length_append, List.length_cons] at hturns
    rw [encodeLabels_cons, List.length_append, Label.length_encode] at hroom
    obtain ⟨t, rfl⟩ : ∃ t, turns = t + 1 := ⟨turns - 1, by omega⟩
    rw [encodeLabelLoop_dot hbase l hdot (by omega), ih t _ _ (by omega) (by rw [Label.length_encode]; omega), ← Nat.add_assoc,
      ByteArr.write_append, encodeLabels_cons, List.length_append, Nat.add_assoc pos]

/-- **The name takes all but one byte of its room**, and nothing else is written. -/
theorem dnsEncodeName_eq (hbase : base + nameCap ≤ cap) {host : Bytes} {ls : List Label} (h : Cut host ls)
    (hroom : (encodeLabels ls).length + 2 ≤ nameCap) (packet : ByteArr cap) :
    dnsEncodeName host base nameCap packet =
      some (packet.write base (encodeLabels ls ++ [0]), (encodeLabels ls).length + 1) := by
  rw [dnsEncodeName, encodeLabelLoop_complete hbase h _ 0 packet (Nat.le_refl _) (by omega)]
  simp only [Option.bind_eq_bind, Option.bind_some, Option.pure_def, Nat.zero_add, Nat.add_zero]
  rw [if_neg (by omega), ByteArr.store_eq _ (by rw [List.length_singleton]; omega), ByteArr.write_append]
  rfl

/-- **What the encoder accepts is a name that leaves a byte free**; otherwise it returns 0. -/
theorem dnsEncodeName_cases (hbase : base + nameCap ≤ cap) (host : Bytes) (packet : ByteArr cap) :
    (∃ ls, Cut host ls ∧ (encodeLabels ls).length + 2 ≤ nameCap) ∨
    ∃ out, dnsEncodeName host base nameCap packet = some (out, 0) := by
  obtain ⟨out', found, hrun, hfound⟩ := encodeLabelLoop_sound hbase host.length host 0 packet (Nat.le_refl _)
  cases found with
  | none =>
    refine .inr ⟨out', ?_⟩
    rw [dnsEncodeName, hrun]
    rfl
  | some pos =>
    obtain ⟨ls, hcut, hpos, -⟩ := hfound pos rfl
    by_cases hroom : nameCap < pos + 2
    · refine .inr ⟨out', ?_⟩
      rw [dnsEncodeName, hrun]
      exact if_pos hroom
    · exact .inl ⟨ls, hcut, by omega⟩

end Encoder

/-! ## The builder -/

def addressQuery (id : UInt16) (ls : List Label) : Query := ⟨id, 0x0100, ⟨ls, 1, 1⟩⟩

def querySize (ls : List Label) : Nat := (encodeLabels ls).length + 17

theorem length_addressQuery (id : UInt16) (ls : List Label) : (addressQuery id ls).encode.length = querySize ls :=
  length_encode_query _

theorem toInt_ofInt (k : Nat) : (Int32.ofInt (k : Nat)).toInt = (k : Int).bmod (2 ^ 32) := Int32.toInt_ofInt

/-- A size that an `int` holds, or that is negative as one. -/
def IntSize (k : Nat) : Prop := k < 2 ^ 31 ∨ 2 ^ 31 ≤ k % 2 ^ 32

theorem intSize_iff (k : Nat) :
    IntSize k ↔ (0 ≤ (Int32.ofInt (k : Nat)).toInt → (Int32.ofInt (k : Nat)).toInt = k) := by
  rw [toInt_ofInt, IntSize, Int.bmod_def]
  split <;> omega

section Build

variable {cap : Nat} {host : Bytes} {ls : List Label}

/-- **The two stores behind what was written from the front** make it longer by four bytes, or leave the packet. -/
theorem store_behind (packet : ByteArr cap) (p : Bytes) :
    ((packet.write 0 p).store p.length [0, 1]).bind (fun a => a.store (p.length + 2) [0, 1]) =
      if p.length + 4 ≤ cap then some (packet.write 0 (p ++ [0, 1] ++ [0, 1])) else none := by
  have hfirst := packet.write_append 0 p [0, 1]
  have hsecond := packet.write_append 0 (p ++ [0, 1]) [0, 1]
  rw [Nat.zero_add] at hfirst hsecond
  rw [List.length_append] at hsecond
  by_cases hfit : p.length + 4 ≤ cap
  · rw [if_pos hfit, ByteArr.store_eq _ (by simp only [List.length_cons, List.length_nil]; omega), Option.bind_some,
      ByteArr.store_eq _ (by simp only [List.length_cons, List.length_nil]; omega), hfirst]
    exact congrArg some hsecond
  · have hout : ∀ a : ByteArr cap, a.store (p.length + 2) [0, 1] = none :=
      fun a => if_neg (by simp only [List.length_cons, List.length_nil]; omega)
    rw [if_neg hfit]
    cases (packet.write 0 p).store p.length [0, 1] with
    | none => rfl
    | some a => exact hout a

/-- **A name that the encoder accepts is followed by four bytes, whether or not they fit.** -/
theorem dnsBuildQuery_of_cut (h : Cut host ls) (hroom : (encodeLabels ls).length + 14 ≤ cap) (id : UInt16)
    (packet : ByteArr cap) :
    dnsBuildQuery host id packet =
      if querySize ls ≤ cap then
        some (packet.write 0 (addressQuery id ls).encode, (Int32.ofInt (querySize ls : Nat)).toInt)
      else none := by
  have hname : dnsEncodeName host 12 (cap - 12) packet =
      some (packet.write 12 (encodeLabels ls ++ [0]), (encodeLabels ls).length + 1) :=
    dnsEncodeName_eq (by omega) h (by omega) packet
  have h0100 : be16 0x0100 = [1, 0] := by decide
  have h0001 : be16 1 = [0, 1] := by decide
  have h0000 : be16 0 = [0, 0] := by decide
  have hheader : be16 id ++ [0x01, 0x00, 0x00, 0x01, 0x00, 0x00, 0x00, 0x00, 0x00, 0x00] = (addressQuery id ls).header.encode := by
    simp [addressQuery, Query.header, Header.encode, h0100, h0001, h0000]
  have hstore : (packet.write 12 (encodeLabels ls ++ [0])).store 0 (addressQuery id ls).header.encode =
      some (packet.write 0 ((addressQuery id ls).header.encode ++ (encodeLabels ls ++ [0]))) := by
    rw [ByteArr.store_eq _ (by rw [Header.length_encode]; omega), ByteArr.write_comm _ (by rw [Header.length_encode])]
    exact congrArg some (packet.write_append 0 _ _)
  have hlen : ((addressQuery id ls).header.encode ++ (encodeLabels ls ++ [0])).length = 12 + ((encodeLabels ls).length + 1) := by
    rw [List.length_append, List.length_append, Header.length_encode]
    rfl
  have hall : (addressQuery id ls).header.encode ++ (encodeLabels ls ++ [0]) ++ [0, 1] ++ [0, 1] = (addressQuery id ls).encode := by
    simp [Query.encode, Question.encode, addressQuery, h0001]
  have hbehind := store_behind packet ((addressQuery id ls).header.encode ++ (encodeLabels ls ++ [0]))
  rw [hlen, hall] at hbehind
  have hsize : 12 + ((encodeLabels ls).length + 1) + 4 = querySize ls := by
    unfold querySize
    omega
  rw [dnsBuildQuery, if_pos (by omega), hname]
  simp only [Option.bind_eq_bind, Option.bind_some, Option.pure_def, if_neg (Nat.succ_ne_zero _), hheader, hstore]
  rw [← Option.bind_assoc, hbehind, hsize]
  split <;> rfl

theorem dnsEncodeName_no_room (host : Bytes) (packet : ByteArr cap) : dnsEncodeName host 12 0 packet = some (packet, 0) := by
  cases host with
  | nil => rfl
  | cons b rest =>
    rw [dnsEncodeName, List.length_cons, encodeLabelLoop, if_neg (List.cons_ne_nil b rest)]
    simp only []
    rw [if_pos (by omega)]
    rfl

theorem dnsBuildQuery_cases (host : Bytes) (id : UInt16) (packet : ByteArr cap) :
    (∃ ls, Cut host ls ∧ (encodeLabels ls).length + 14 ≤ cap) ∨ ∃ out, dnsBuildQuery host id packet = some (out, -1) := by
  by_cases hcap : 12 < cap
  · rcases dnsEncodeName_cases (show 12 + (cap - 12) ≤ cap by omega) host packet with
      ⟨ls, hcut, hroom⟩ | ⟨out, hout⟩
    · exact .inl ⟨ls, hcut, by omega⟩
    · refine .inr ⟨out, ?_⟩
      rw [dnsBuildQuery, if_pos hcap, hout]
      rfl
  · refine .inr ⟨packet, ?_⟩
    rw [dnsBuildQuery, if_neg hcap, dnsEncodeName_no_room]
    rfl

theorem Cut.unique (h : Cut host ls) : ∀ {ls' : List Label}, Cut host ls' → ls = ls' := by
  have label_ext : ∀ {l l' : Label}, l.bytes = l'.bytes → l = l' := by
    rintro ⟨b, _, _⟩ ⟨b', _, _⟩ rfl
    rfl
  induction h with
  | nil => exact fun h' => (cut_nil h').symm
  | last l hdot =>
    intro ls' h'
    generalize hhost : l.bytes = host at h'
    cases h' with
    | nil => exact absurd hhost l.ne_nil
    | last l' _ => rw [label_ext hhost]
    | dot l' _ _ => exact absurd (by rw [hhost]; simp) hdot
  | @dot l rest ls hdot _ ih =>
    intro ls' h'
    generalize hhost : l.bytes ++ Slp.dot :: rest = host at h'
    cases h' with
    | nil => simp at hhost
    | last l' hdot' => exact absurd (by rw [← hhost]; simp) hdot'
    | dot l' hdot' hrest' =>
      have htext := congrArg (List.takeWhile (· != Slp.dot)) hhost
      have hdrop := congrArg (List.dropWhile (· != Slp.dot)) hhost
      rw [takeWhile_text_dot hdot, takeWhile_text_dot hdot'] at htext
      rw [dropWhile_text_dot hdot, dropWhile_text_dot hdot'] at hdrop
      obtain ⟨-, rfl⟩ := List.cons.inj hdrop
      rw [label_ext htext, ih hrest']

end Build

/-- The builder keeps inside the packet, and if it returns a length then the host is one label or more with single dots between
them, at most one more dot behind, and the packet up to that length is the query for their address. -/
def EncodesQuery {cap : Nat} (host : Bytes) (id : UInt16) (packet : ByteArr cap) : Prop :=
  ∃ packet' ret, dnsBuildQuery host id packet = some (packet', ret) ∧
    (0 ≤ ret → ∃ ls, ls ≠ [] ∧ Spells ls host ∧ decodeQuery (packet'.read ret.toNat) = some (addressQuery id ls) ∧
      ret = (addressQuery id ls).encode.length)

/-- The host is not empty where the root alone would fit, and the query of a host is none to three bytes larger than the packet
and no larger than an `int` tells. -/
def Encodable (host : Bytes) (cap : Nat) : Prop :=
  (host = [] → cap < 14) ∧
  ∀ ls, ls ≠ [] → Spells ls host → querySize ls ≤ cap + 3 → querySize ls ≤ cap ∧ IntSize (querySize ls)

/-- **The builder does what it should exactly on these hosts and capacities.** -/
theorem encodesQuery_iff {cap : Nat} (host : Bytes) (id : UInt16) (packet : ByteArr cap) :
    EncodesQuery host id packet ↔ Encodable host cap := by
  constructor
  · rintro ⟨packet', ret, hbuild, hret⟩
    refine ⟨?_, fun ls hne hspells hsize => ?_⟩
    · rintro rfl
      by_contra hcap
      rw [dnsBuildQuery_of_cut .nil (by rw [encodeLabels_nil, List.length_nil]; omega)] at hbuild
      split at hbuild
      · cases hbuild
        obtain ⟨ls, hne, hspells, -⟩ := hret (by decide)
        exact hne (cut_nil (hspells.cut hne))
      · cases hbuild
    · have hcut := hspells.cut hne
      rw [dnsBuildQuery_of_cut hcut (by unfold querySize at hsize; omega)] at hbuild
      split at hbuild
      · rename_i hfit
        cases hbuild
        refine ⟨hfit, (intSize_iff _).2 (fun hpos => ?_)⟩
        obtain ⟨ls', hne', hspells', -, hlen⟩ := hret hpos
        rw [hlen, length_addressQuery, hcut.unique (hspells'.cut hne')]
      · cases hbuild
  · rintro ⟨hempty, hsizes⟩
    rcases dnsBuildQuery_cases host id packet with ⟨ls, hcut, hroom⟩ | ⟨out, hout⟩
    · have hne : ls ≠ [] := by
        rintro rfl
        have := hempty hcut.eq_nil
        omega
      obtain ⟨hfit, hint⟩ := hsizes ls hne (hcut.spells hne) (by unfold querySize; omega)
      refine ⟨_, _, (dnsBuildQuery_of_cut hcut hroom id packet).trans (if_pos hfit), fun hpos => ?_⟩
      have hret := (intSize_iff _).1 hint hpos
      refine ⟨ls, hne, hcut.spells hne, ?_, by rw [hret, length_addressQuery]⟩
      rw [hret, Int.toNat_natCast, ← length_addressQuery id, ByteArr.read_write _ (by rw [length_addressQuery]; exact hfit),
        decodeQuery_encode]
    · exact ⟨out, -1, hout, fun hpos => absurd hpos (by decide)⟩

/-- **Three bytes of the query for one letter are written behind a packet of 16.** -/
theorem not_encodesQuery_short : ¬ EncodesQuery [97] 0 (fun _ => 0 : ByteArr 16) ∧
    dnsBuildQuery [97] 0 (fun _ => 0 : ByteArr 16) = none := by
  have hnone : dnsBuildQuery [97] 0 (fun _ => 0 : ByteArr 16) = none := by decide
  refine ⟨?_, hnone⟩
  rintro ⟨_, _, hbuild, -⟩
  rw [hnone] at hbuild
  cases hbuild

end Slp
