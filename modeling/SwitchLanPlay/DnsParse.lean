import SwitchLanPlay.DnsMessage
/-!
# DnsParse — the parser of DNS responses (source/relay_bridge.hpp)

`dnsParseResponseA` skips the question, walks the records and copies out the data of the first address record.  Its memory is
a function from the offset to the byte there, `none` where a read is a fault: `loadByte resp` lets it read the response and
nothing else, `memory resp after` goes on with whatever lies behind.  The walk is described by relations on the response
(`NameAt`, `RecordAt`), which say where the names end and the records start.
-/
namespace Slp

open Wire DnsMessage

/-- Where the loop over a name's labels stops. -/
inductive Stop where
  | pointer
  | root
  | cut
deriving DecidableEq

/-- What the question's loop and `pos += 5` skip where it stops; behind a pointer the `goto` skips them. -/
def Stop.questionSkip : Stop → Nat
  | pointer => 2
  | root => 5
  | cut => 5

/-- What the loop over a record's owner skips where it stops. -/
def Stop.ownerSkip : Stop → Nat
  | pointer => 2
  | root => 1
  | cut => 0

section Parser

variable (mem : Nat → Option UInt8) (len : Nat)

/-- The two bytes at `resp[pos]`. -/
def field16 (pos : Nat) : Option UInt16 := do
  let hi ← mem pos
  let lo ← mem (pos + 1)
  return read16 hi lo

/-- The loop over the labels of a name: every turn takes a byte at least, so the bytes left bound the turns. -/
def skipLabels : Nat → Nat → Option (Nat × Stop)
  | 0, pos => some (pos, .cut)
  | turns + 1, pos =>
    if pos < len then do
      let l ← mem pos
      if l &&& 0xC0 = 0xC0 then return (pos, .pointer)
      if l = 0 then return (pos, .root)
      skipLabels turns (pos + (1 + l.toNat))
    else some (pos, .cut)

def skipQuestion (pos : Nat) : Option Nat := do
  let (pos, stop) ← skipLabels mem len (len - pos) pos
  return pos + stop.questionSkip

def skipOwner (pos : Nat) : Option Nat := do
  let (pos, stop) ← skipLabels mem len (len - pos) pos
  return pos + stop.ownerSkip

/-- The loop over the records, up to the one whose data is copied out: where its TYPE stands. -/
def walkRecords : Nat → Nat → Option (Option Nat)
  | 0, _ => some none
  | ancount + 1, pos =>
    if pos + 12 ≤ len then do
      let pos ← skipOwner mem len pos
      if len < pos + 10 then return none
      let type ← field16 mem pos
      let rdlen ← field16 mem (pos + 8)
      if type = 1 ∧ rdlen = 4 ∧ pos + 12 ≤ len then return some pos
      walkRecords ancount (pos + (10 + rdlen.toNat))
    else some none

/-- The checks of the header and the way to the record. -/
def locateA : Option (Option Nat) :=
  if len < 12 then some none
  else do
    let flags ← field16 mem 2
    if flags &&& 0x8000 = 0 ∨ flags &&& 0x000F ≠ 0 then return none
    let ancount ← field16 mem 6
    if ancount = 0 then return none
    let pos ← skipQuestion mem len 12
    walkRecords mem len ancount.toNat pos

/-- `memcpy(out, resp + pos + 10, 4)`. -/
def copyAddress (pos : Nat) : Option Bytes := do
  let b0 ← mem (pos + 10)
  let b1 ← mem (pos + 11)
  let b2 ← mem (pos + 12)
  let b3 ← mem (pos + 13)
  return [b0, b1, b2, b3]

def copyOut : Option Nat → Option (Option Bytes)
  | none => some none
  | some pos => (copyAddress mem pos).map some

/-- `DnsParseResponseA`: with true, the four bytes of `*out`. -/
def dnsParseResponseA : Option (Option Bytes) := do
  let found ← locateA mem len
  copyOut mem found

end Parser

/-- The response, and behind it whatever the memory has. -/
def memory (resp : Bytes) (after : Nat → UInt8) (i : Nat) : Option UInt8 := some ((resp[i]?).getD (after i))

/-- The memory has the response at its front. -/
def Fronts (resp : Bytes) (mem : Nat → Option UInt8) : Prop := ∀ i b, resp[i]? = some b → mem i = some b

theorem fronts_self (resp : Bytes) : Fronts resp (loadByte resp) := fun _ _ h => h

theorem fronts_memory (resp : Bytes) (after : Nat → UInt8) : Fronts resp (memory resp after) := by
  intro i b h
  rw [memory, h]
  rfl

/-! ## The walk, as the response has it -/

section Walk

variable (resp : Bytes)

/-- The labels from `pos` on end at `e`. -/
inductive NameAt : Nat → Stop → Nat → Prop
  | pointer {pos : Nat} {l : UInt8} (h : resp[pos]? = some l) (hp : IsPointer l) : NameAt pos .pointer pos
  | root {pos : Nat} (h : resp[pos]? = some 0) : NameAt pos .root pos
  | cut {pos : Nat} (h : resp.length ≤ pos) : NameAt pos .cut pos
  | label {pos e : Nat} {l : UInt8} {s : Stop} (h : resp[pos]? = some l) (hp : ¬ IsPointer l) (h0 : l ≠ 0)
      (hrest : NameAt (pos + (1 + l.toNat)) s e) : NameAt pos s e

/-- The fields at `pos` are those of an address record. -/
def IsAddressAt (pos : Nat) : Prop := load16 resp pos = some 1 ∧ load16 resp (pos + 8) = some 4

instance (pos : Nat) : Decidable (IsAddressAt resp pos) := inferInstanceAs (Decidable (_ ∧ _))

/-- The fields of the record that starts at `pos` are at `e`. -/
def FieldsAt (pos e : Nat) : Prop := ∃ s p, NameAt resp pos s p ∧ e = p + s.ownerSkip

/-- The walk comes to its record number `k` at `pos`: the fields of the ones before are there, and no address. -/
inductive RecordAt : Nat → Nat → Prop
  | first {e : Nat} {s : Stop} (h : NameAt resp 12 s e) : RecordAt 0 (e + s.questionSkip)
  | next {k pos e : Nat} {rdlen : UInt16} (h : RecordAt k pos) (hf : FieldsAt resp pos e) (hin : e + 10 ≤ resp.length)
      (hnot : ¬ IsAddressAt resp e) (hlen : load16 resp (e + 8) = some rdlen) : RecordAt (k + 1) (e + (10 + rdlen.toNat))

/-- The header lets the walk begin. -/
def IsReplyTo : Prop := 12 ≤ resp.length ∧ (Header.decode resp).IsReply

/-- Among the records announced, the first address record that the walk comes to has its fields at `e`. -/
def AddressAt (e : Nat) : Prop :=
  IsReplyTo resp ∧ ∃ k pos, k < (Header.decode resp).ancount.toNat ∧ RecordAt resp k pos ∧ FieldsAt resp pos e ∧
    IsAddressAt resp e

end Walk

/-! ## The loops follow the walk -/

section Follow

variable {resp : Bytes} {mem : Nat → Option UInt8} (hmem : Fronts resp mem)

include hmem

theorem field16_of_load16 {pos : Nat} {x : UInt16} (h : load16 resp pos = some x) : field16 mem pos = some x := by
  unfold load16 at h
  obtain ⟨hi, hhi, h⟩ := Option.bind_eq_some_iff.1 h
  obtain ⟨lo, hlo, h⟩ := Option.bind_eq_some_iff.1 h
  rw [field16, hmem _ _ hhi, hmem _ _ hlo]
  exact h

theorem field16_eq {pos : Nat} (h : pos + 1 < resp.length) :
    field16 mem pos = some (read16 (byteAt resp pos) (byteAt resp (pos + 1))) := field16_of_load16 hmem (load16_eq h)

/-- **The label loop ends where the name does.** -/
theorem skipLabels_eq {pos e : Nat} {s : Stop} (h : NameAt resp pos s e) :
    ∀ turns, resp.length - pos ≤ turns → skipLabels mem resp.length turns pos = some (e, s) := by
  induction h with
  | @pointer pos l h hp =>
    intro turns hturns
    have hlt := (List.getElem?_eq_some_iff.1 h).1
    obtain ⟨t, rfl⟩ : ∃ t, turns = t + 1 := ⟨turns - 1, by omega⟩
    rw [skipLabels, if_pos hlt, hmem _ _ h]
    exact if_pos hp
  | @root pos h =>
    intro turns hturns
    have hlt := (List.getElem?_eq_some_iff.1 h).1
    obtain ⟨t, rfl⟩ : ∃ t, turns = t + 1 := ⟨turns - 1, by omega⟩
    rw [skipLabels, if_pos hlt, hmem _ _ h]
    rfl
  | @cut pos h =>
    intro turns _
    cases turns with
    | zero => rfl
    | succ t => exact if_neg (Nat.not_lt.2 h)
  | @label pos e l s h hp h0 _ ih =>
    intro turns hturns
    have hlt := (List.getElem?_eq_some_iff.1 h).1
    obtain ⟨t, rfl⟩ : ∃ t, turns = t + 1 := ⟨turns - 1, by omega⟩
    rw [skipLabels, if_pos hlt, hmem _ _ h]
    show (if l &&& 0xC0 = 0xC0 then _ else if l = 0 then _ else _) = _
    rw [if_neg (show ¬ l &&& 0xC0 = 0xC0 from hp), if_neg h0]
    exact ih t (by omega)

theorem skipOwner_eq {pos e : Nat} (h : FieldsAt resp pos e) : skipOwner mem resp.length pos = some e := by
  obtain ⟨s, p, hname, rfl⟩ := h
  rw [skipOwner, skipLabels_eq hmem hname _ (Nat.le_refl _)]
  rfl

theorem skipQuestion_eq {e : Nat} {s : Stop} (h : NameAt resp 12 s e) :
    skipQuestion mem resp.length 12 = some (e + s.questionSkip) := by
  rw [skipQuestion, skipLabels_eq hmem h _ (Nat.le_refl _)]
  rfl

end Follow

/-- **Every place starts a name.** -/
theorem exists_nameAt (resp : Bytes) (pos : Nat) : ∃ s e, NameAt resp pos s e := by
  by_cases hlt : pos < resp.length
  · have hl : resp[pos]? = some resp[pos] := List.getElem?_eq_getElem hlt
    by_cases hp : IsPointer resp[pos]
    · exact ⟨_, _, .pointer hl hp⟩
    by_cases h0 : resp[pos] = 0
    · exact ⟨_, _, .root (hl.trans (congrArg some h0))⟩
    obtain ⟨s, e, hrest⟩ := exists_nameAt resp (pos + (1 + resp[pos].toNat))
    exact ⟨s, e, .label hl hp h0 hrest⟩
  · exact ⟨_, _, .cut (Nat.not_lt.1 hlt)⟩
termination_by resp.length - pos

theorem exists_fieldsAt (resp : Bytes) (pos : Nat) : ∃ e, FieldsAt resp pos e := by
  obtain ⟨s, p, h⟩ := exists_nameAt resp pos
  exact ⟨_, s, p, h, rfl⟩

theorem NameAt.le {resp : Bytes} {pos e : Nat} {s : Stop} (h : NameAt resp pos s e) : pos ≤ e := by
  induction h with
  | pointer => exact Nat.le_refl _
  | root => exact Nat.le_refl _
  | cut => exact Nat.le_refl _
  | label => omega

theorem NameAt.length_le {resp : Bytes} {pos e : Nat} {s : Stop} (h : NameAt resp pos s e) (hs : s = .cut) :
    resp.length ≤ e := by
  induction h with
  | pointer => cases hs
  | root => cases hs
  | cut h => exact h
  | label _ _ _ _ ih => exact ih hs

/-- **Fields inside the response come after their owner.** -/
theorem FieldsAt.lt {resp : Bytes} {pos e : Nat} (h : FieldsAt resp pos e) (hin : e < resp.length) : pos < e := by
  obtain ⟨s, p, hname, rfl⟩ := h
  have hle := hname.le
  cases s with
  | pointer => exact Nat.lt_of_le_of_lt hle (Nat.lt_add_of_pos_right (by decide))
  | root => exact Nat.lt_of_le_of_lt hle (Nat.lt_add_of_pos_right (by decide))
  | cut =>
    have := hname.length_le rfl
    simp only [Stop.ownerSkip] at hin
    omega

/-! ## Where the walk ends -/

section Located

variable {resp : Bytes} {mem : Nat → Option UInt8}

/-- The record's data length, once its fields are known to be there. -/
def rdlengthAt (resp : Bytes) (e : Nat) : UInt16 := read16 (byteAt resp (e + 8)) (byteAt resp (e + 9))

theorem load16_rdlengthAt {e : Nat} (h : e + 10 ≤ resp.length) : load16 resp (e + 8) = some (rdlengthAt resp e) :=
  load16_eq (by omega)

/-- **One turn of the loop over the records.** -/
theorem walkRecords_turn (hmem : Fronts resp mem) {pos e : Nat} (hf : FieldsAt resp pos e) (hpos : pos + 12 ≤ resp.length)
    (n : Nat) :
    walkRecords mem resp.length (n + 1) pos =
      if resp.length < e + 10 then some none
      else if IsAddressAt resp e ∧ e + 12 ≤ resp.length then some (some e)
      else walkRecords mem resp.length n (e + (10 + (rdlengthAt resp e).toNat)) := by
  rw [walkRecords, if_pos hpos, skipOwner_eq hmem hf]
  simp only [Option.bind_eq_bind, Option.bind_some, Option.pure_def]
  by_cases hin : resp.length < e + 10
  · rw [if_pos hin, if_pos hin]
  · have htype : load16 resp e = some (read16 (byteAt resp e) (byteAt resp (e + 1))) := load16_eq (by omega)
    have hrdlen := load16_rdlengthAt (Nat.not_lt.1 hin)
    have haddr : IsAddressAt resp e ↔ read16 (byteAt resp e) (byteAt resp (e + 1)) = 1 ∧ rdlengthAt resp e = 4 := by
      rw [IsAddressAt, htype, hrdlen, Option.some_inj, Option.some_inj]
    rw [if_neg hin, if_neg hin, field16_of_load16 hmem htype, field16_of_load16 hmem hrdlen]
    simp only [Option.bind_some, haddr, and_assoc]

/-- **The walk reads nothing behind the response**: all memories with the response at their front take it alike. -/
theorem walkRecords_alike (resp : Bytes) : ∀ (n pos : Nat), ∃ found, ∀ mem, Fronts resp mem →
    walkRecords mem resp.length n pos = some found
  | 0, _ => ⟨none, fun _ _ => rfl⟩
  | n + 1, pos => by
    by_cases hpos : pos + 12 ≤ resp.length
    · obtain ⟨e, hf⟩ := exists_fieldsAt resp pos
      obtain ⟨found, hfound⟩ := walkRecords_alike resp n (e + (10 + (rdlengthAt resp e).toNat))
      by_cases hin : resp.length < e + 10
      · exact ⟨none, fun mem hmem => (walkRecords_turn hmem hf hpos n).trans (if_pos hin)⟩
      by_cases haddr : IsAddressAt resp e ∧ e + 12 ≤ resp.length
      · exact ⟨some e, fun mem hmem => (walkRecords_turn hmem hf hpos n).trans ((if_neg hin).trans (if_pos haddr))⟩
      · exact ⟨found, fun mem hmem =>
          (walkRecords_turn hmem hf hpos n).trans ((if_neg hin).trans ((if_neg haddr).trans (hfound mem hmem)))⟩
    · exact ⟨none, fun _ _ => if_neg hpos⟩

/-- **A record the loop stops at is the first address record of the walk.** -/
theorem walkRecords_sound (hmem : Fronts resp mem) : ∀ (n : Nat) {k pos e : Nat}, RecordAt resp k pos →
    walkRecords mem resp.length n pos = some (some e) →
      ∃ k' pos', k' < k + n ∧ RecordAt resp k' pos' ∧ FieldsAt resp pos' e ∧ IsAddressAt resp e ∧ e + 12 ≤ resp.length
  | 0, _, _, _, _, h => by cases h
  | n + 1, k, pos, e, hrec, h => by
    by_cases hpos : pos + 12 ≤ resp.length
    · obtain ⟨f, hf⟩ := exists_fieldsAt resp pos
      rw [walkRecords_turn hmem hf hpos] at h
      by_cases hin : resp.length < f + 10
      · rw [if_pos hin] at h
        cases h
      rw [if_neg hin] at h
      by_cases haddr : IsAddressAt resp f ∧ f + 12 ≤ resp.length
      · rw [if_pos haddr] at h
        cases h
        exact ⟨k, pos, by omega, hrec, hf, haddr.1, haddr.2⟩
      · rw [if_neg haddr] at h
        by_cases hisA : IsAddressAt resp f
        · -- an address cut off before its third byte ends the walk
          have hcut : ¬ f + (10 + (rdlengthAt resp f).toNat) + 12 ≤ resp.length := by
            have := mt (And.intro hisA) haddr
            omega
          cases n with
          | zero => cases h
          | succ n =>
            rw [walkRecords, if_neg hcut] at h
            cases h
        · have hnext := RecordAt.next hrec hf (Nat.not_lt.1 hin) hisA (load16_rdlengthAt (Nat.not_lt.1 hin))
          obtain ⟨k', pos', hk, hrest⟩ := walkRecords_sound hmem n hnext h
          exact ⟨k', pos', by omega, hrest⟩
    · rw [walkRecords, if_neg hpos] at h
      cases h

/-- **The loop comes to every record of the walk** that starts early enough. -/
theorem walkRecords_reaches (hmem : Fronts resp mem) {start : Nat} (hstart : skipQuestion mem resp.length 12 = some start)
    {k pos : Nat} (hrec : RecordAt resp k pos) : pos + 12 ≤ resp.length → ∀ n, k ≤ n →
      walkRecords mem resp.length n start = walkRecords mem resp.length (n - k) pos := by
  induction hrec with
  | first h =>
    intro _ n _
    rw [skipQuestion_eq hmem h] at hstart
    cases hstart
    rfl
  | @next k pos e rdlen _ hf hin hnot hlen ih =>
    intro hpos n hn
    have hlt := hf.lt (by omega)
    rw [ih (by omega) n (by omega), show n - k = (n - (k + 1)) + 1 by omega, walkRecords_turn hmem hf (by omega),
      if_neg (Nat.not_lt.2 hin), if_neg (fun h => hnot h.1)]
    rw [load16_rdlengthAt hin] at hlen
    cases hlen
    rfl

theorem locateA_of_short (h : ¬ 12 ≤ resp.length) : locateA mem resp.length = some none := if_pos (Nat.not_le.1 h)

/-- **The header decides whether the walk begins.** -/
theorem locateA_of_long (hmem : Fronts resp mem) (h : 12 ≤ resp.length) :
    locateA mem resp.length =
      if (Header.decode resp).IsReply ∧ (Header.decode resp).ancount ≠ 0 then
        (do let pos ← skipQuestion mem resp.length 12
            walkRecords mem resp.length (Header.decode resp).ancount.toNat pos)
      else some none := by
  have hflags : field16 mem 2 = some (Header.decode resp).flags := field16_eq hmem (by omega)
  have hancount : field16 mem 6 = some (Header.decode resp).ancount := field16_eq hmem (by omega)
  rw [locateA, if_neg (Nat.not_lt.2 h), hflags, hancount]
  simp only [Option.bind_eq_bind, Option.bind_some, Option.pure_def]
  by_cases hreply : (Header.decode resp).IsReply
  · rw [if_neg (fun hbad => hbad.elim hreply.1 (fun hne => hne hreply.2))]
    by_cases h0 : (Header.decode resp).ancount = 0
    · rw [if_pos h0, if_neg (fun hgood => hgood.2 h0)]
    · rw [if_neg h0, if_pos ⟨hreply, h0⟩]
  · have hbad : (Header.decode resp).flags &&& 0x8000 = 0 ∨ (Header.decode resp).flags &&& 0x000F ≠ 0 := by
      by_contra hgood
      obtain ⟨hqr, hrcode⟩ := not_or.1 hgood
      exact hreply ⟨hqr, not_not.1 hrcode⟩
    rw [if_pos hbad]
    exact (if_neg (fun hgood => hreply hgood.1)).symm

theorem locateA_alike (resp : Bytes) : ∃ found, ∀ mem, Fronts resp mem → locateA mem resp.length = some found := by
  by_cases hlen : 12 ≤ resp.length
  · by_cases hreply : (Header.decode resp).IsReply ∧ (Header.decode resp).ancount ≠ 0
    · obtain ⟨s, e, hname⟩ := exists_nameAt resp 12
      obtain ⟨found, hfound⟩ := walkRecords_alike resp (Header.decode resp).ancount.toNat (e + s.questionSkip)
      refine ⟨found, fun mem hmem => ?_⟩
      rw [locateA_of_long hmem hlen, if_pos hreply, skipQuestion_eq hmem hname]
      exact hfound mem hmem
    · exact ⟨none, fun mem hmem => (locateA_of_long hmem hlen).trans (if_neg hreply)⟩
  · exact ⟨none, fun mem _ => locateA_of_short hlen⟩

/-- **The parser finds the first address record of the walk**, if the record shows two bytes of its data at least. -/
theorem locateA_iff (hmem : Fronts resp mem) (e : Nat) :
    locateA mem resp.length = some (some e) ↔ AddressAt resp e ∧ e + 12 ≤ resp.length := by
  by_cases hlen : 12 ≤ resp.length
  · rw [locateA_of_long hmem hlen]
    obtain ⟨s, p, hname⟩ := exists_nameAt resp 12
    have hstart := skipQuestion_eq hmem hname
    constructor
    · intro h
      split at h
      · rename_i hreply
        rw [hstart] at h
        obtain ⟨k, pos, hk, hrec, hf, haddr, hin⟩ := walkRecords_sound hmem _ (.first hname) h
        exact ⟨⟨⟨hlen, hreply.1⟩, k, pos, by omega, hrec, hf, haddr⟩, hin⟩
      · cases h
    · rintro ⟨⟨hreply, k, pos, hk, hrec, hf, haddr⟩, hin⟩
      have hlt := hf.lt (by omega)
      have hne : (Header.decode resp).ancount ≠ 0 := by
        intro h0
        rw [h0] at hk
        exact absurd hk (Nat.not_lt_zero k)
      rw [if_pos ⟨hreply.2, hne⟩, hstart]
      show walkRecords _ _ _ _ = _
      rw [walkRecords_reaches hmem hstart hrec (by omega) _ (Nat.le_of_lt hk),
        show (Header.decode resp).ancount.toNat - k = ((Header.decode resp).ancount.toNat - k - 1) + 1 by omega,
        walkRecords_turn hmem hf (by omega), if_neg (by omega), if_pos ⟨haddr, hin⟩]
  · rw [locateA_of_short hlen]
    constructor
    · intro h
      cases h
    · rintro ⟨⟨hreply, -⟩, -⟩
      exact absurd hreply.1 hlen

end Located

end Slp
