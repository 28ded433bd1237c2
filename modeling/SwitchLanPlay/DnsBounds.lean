import SwitchLanPlay.DnsParse
/-!
# DnsBounds — what the response parser reads

The loops of `dnsParseResponseA` stay below the response's length, whatever it says.  The copy of the address does not: it is
guarded by `pos + 12 <= len`, two bytes short of the four it takes from `resp + pos + 10`.  The parser reads on behind the
response exactly when the address record it finds has two or three of its four bytes there (`staysInside_iff`).
-/
namespace Slp

open Wire DnsMessage

/-- Every read is below `len`, and so what lies behind the response makes no difference. -/
def StaysInside (resp : Bytes) : Prop :=
  (dnsParseResponseA (loadByte resp) resp.length).isSome = true ∧
  ∀ after, dnsParseResponseA (memory resp after) resp.length = dnsParseResponseA (loadByte resp) resp.length

/-- The first address record that the walk comes to ends one or two bytes behind the response. -/
def CutAddress (resp : Bytes) : Prop := ∃ e, AddressAt resp e ∧ e + 12 ≤ resp.length ∧ resp.length < e + 14

variable {resp : Bytes} {mem : Nat → Option UInt8}

theorem getElem?_of_lt {i : Nat} (h : i < resp.length) : resp[i]? = some (byteAt resp i) := loadByte_eq h

theorem bytesAt_four {i : Nat} (h : i + 4 ≤ resp.length) :
    bytesAt resp i 4 = [byteAt resp i, byteAt resp (i + 1), byteAt resp (i + 2), byteAt resp (i + 3)] := by
  have hcons : ∀ j < resp.length, resp.drop j = byteAt resp j :: resp.drop (j + 1) := by
    intro j hj
    rw [List.drop_eq_getElem_cons hj, byteAt, List.getD_eq_getElem?_getD, List.getElem?_eq_getElem hj, Option.getD_some]
  rw [bytesAt, hcons i (by omega), hcons (i + 1) (by omega), hcons (i + 2) (by omega), hcons (i + 3) (by omega)]
  rfl

/-- **An address inside the response is copied out of it.** -/
theorem copyAddress_eq (hmem : Fronts resp mem) {e : Nat} (h : e + 14 ≤ resp.length) :
    copyAddress mem e = some (bytesAt resp (e + 10) 4) := by
  rw [bytesAt_four (by omega), copyAddress, hmem _ _ (getElem?_of_lt (i := e + 10) (by omega)),
    hmem _ _ (getElem?_of_lt (i := e + 11) (by omega)), hmem _ _ (getElem?_of_lt (i := e + 12) (by omega)),
    hmem _ _ (getElem?_of_lt (i := e + 13) (by omega))]
  rfl

theorem copyAddress_none {e : Nat} (h : resp.length < e + 14) : copyAddress (loadByte resp) e = none := by
  have hlast : loadByte resp (e + 13) = none := List.getElem?_eq_none (by omega)
  rw [copyAddress, hlast]
  cases loadByte resp (e + 10) <;> cases loadByte resp (e + 11) <;> cases loadByte resp (e + 12) <;> rfl

theorem dnsParseResponseA_of_located {found : Option Nat} (h : locateA mem resp.length = some found) :
    dnsParseResponseA mem resp.length = copyOut mem found := by
  rw [dnsParseResponseA, h]
  rfl

/-- **The parser stays inside the response unless the address it copies is cut off**: for every response, all its reads are
below the length, and its result does not depend on what lies behind, if and only if the first address record that the walk
comes to does not have just two or three of its four bytes in the response. -/
theorem staysInside_iff (resp : Bytes) : StaysInside resp ↔ ¬ CutAddress resp := by
  constructor
  · rintro ⟨hsome, -⟩ ⟨e, haddr, hin, hcut⟩
    have hfound := (locateA_iff (fronts_self resp) e).2 ⟨haddr, hin⟩
    rw [dnsParseResponseA_of_located hfound, copyOut, copyAddress_none hcut] at hsome
    cases hsome
  · intro hnot
    obtain ⟨found, hfound⟩ := locateA_alike resp
    have hself := dnsParseResponseA_of_located (hfound _ (fronts_self resp))
    have hmemory : ∀ after, dnsParseResponseA (memory resp after) resp.length = copyOut (memory resp after) found :=
      fun after => dnsParseResponseA_of_located (hfound _ (fronts_memory resp after))
    cases found with
    | none => exact ⟨by rw [hself]; rfl, fun after => by rw [hself, hmemory]; rfl⟩
    | some e =>
      obtain ⟨haddr, hin⟩ := (locateA_iff (fronts_self resp) e).1 (hfound _ (fronts_self resp))
      have hwhole : e + 14 ≤ resp.length := by
        by_contra hcut
        exact hnot ⟨e, haddr, hin, Nat.not_le.1 hcut⟩
      refine ⟨?_, fun after => ?_⟩
      · rw [hself, copyOut, copyAddress_eq (fronts_self resp) hwhole]
        rfl
      · rw [hself, hmemory, copyOut, copyOut, copyAddress_eq (fronts_self resp) hwhole,
          copyAddress_eq (fronts_memory resp after) hwhole]

/-- A response of one question and one address record that is two bytes short. -/
def shortAddress : Bytes :=
  [0x5A, 0x5A, 0x80, 0, 0, 1, 0, 1, 0, 0, 0, 0] ++ [0, 0, 1, 0, 1] ++ [0, 0, 1, 0, 1, 0, 0, 0, 60, 0, 4, 10, 0]

/-- **The last two bytes of its address are read behind the response.** -/
theorem not_staysInside_shortAddress : ¬ StaysInside shortAddress ∧
    dnsParseResponseA (loadByte shortAddress) shortAddress.length = none ∧
    dnsParseResponseA (memory shortAddress (fun _ => 0xCD)) shortAddress.length = some (some [10, 0, 0xCD, 0xCD]) := by
  have hnone : dnsParseResponseA (loadByte shortAddress) shortAddress.length = none := by decide
  refine ⟨fun h => ?_, hnone, by decide⟩
  rw [StaysInside, hnone] at h
  cases h.1

end Slp
