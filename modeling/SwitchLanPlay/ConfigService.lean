import Mathlib.Data.List.TakeDrop
import SwitchLanPlay.Selection
import SwitchLanPlay.Service
/-!
# ConfigService — what the overlay is told (source/cfg/cfg_service.cpp)

`GetSelectedHostPort` copies as much of the selected server's host as its caller's buffer takes.  `ConnectRelayLocked` has a
buffer of 128 bytes, which takes every host of the list, and `GetState` one of 16.  So the overlay, which has room for 128 bytes,
is told the host that is dialled exactly when that host is at most 15 bytes long (`tellsDialled_iff`), and otherwise its first 15
bytes.
-/
namespace Wire
namespace CStr

open CStrings

variable {cap : Nat}

/-- The bytes of a `char[cap]` that was zeroed before the string was copied into it. -/
def buffer (s : CStr cap) : Bytes := s.bytes ++ List.replicate (cap - s.bytes.length) 0

/-- **A string is read back from the front of its buffer**, if the front has a terminator. -/
theorem cstr_take_buffer (s : CStr cap) {n : Nat} (h : s.bytes.length < n) (r : Bytes) :
    cstr (s.buffer.take n ++ r) = s.bytes := by
  have hfits := s.fits
  have hall : ∀ c ∈ s.bytes, (c != 0) = true := by
    intro c hc
    rw [bne_iff_ne]
    rintro rfl
    exact s.no_nul hc
  obtain ⟨k, hk⟩ : ∃ k, min (n - s.bytes.length) (cap - s.bytes.length) = k + 1 :=
    ⟨min (n - s.bytes.length) (cap - s.bytes.length) - 1, by omega⟩
  rw [buffer, List.take_append, List.take_of_length_le h.le, List.take_replicate, hk, List.replicate_succ,
    List.append_assoc, List.cons_append, cstr, List.takeWhile_append_of_pos hall,
    List.takeWhile_cons_of_neg (by decide), List.append_nil]

end CStr
end Wire

namespace Slp

open Wire CStrings

namespace RuntimeCfg

/-- "10.102.227.153". -/
def defaultRelayHost : Bytes := [49, 48, 46, 49, 48, 50, 46, 50, 50, 55, 46, 49, 53, 51]

def defaultRelayPort : UInt16 := 11451

/-- `GetSelectedHostPort`, with the caller's `char[cap]`. -/
def getSelectedHostPort (c : RuntimeCfg) (cap : Nat) (h : 0 < cap) : CStr cap × UInt16 :=
  match c.selected with
  | some s => (strncpy cap h s.host.bytes, s.port)
  | none => (strncpy cap h defaultRelayHost, defaultRelayPort)

/-- What `ConnectRelayLocked` passes to `RelayBridge::Connect`. -/
def connectHostPort (c : RuntimeCfg) : CStr 128 × UInt16 := c.getSelectedHostPort 128 (by decide)

/-- The host that is selected, with nothing cut off. -/
def selectedHost (c : RuntimeCfg) : Bytes :=
  match c.selected with
  | some s => s.host.bytes
  | none => defaultRelayHost

end RuntimeCfg

namespace ConfigService

open RuntimeCfg

/-- `copy_str` into the client's buffer. -/
def copyStr (out str : Bytes) : Bytes :=
  let n := if out.length > 128 then 128 else out.length
  (strncpy 128 (by decide) str).buffer.take n ++ out.drop n

/-- `inet_ntoa` of an address, as its bytes stand in memory. -/
def inetNtoa (addr : Bytes) : Bytes := [46].intercalate (addr.map (fun b => digitsText b.toNat))

/-- `ip_to_str`. -/
def ipToStr (ipHost : UInt32) (cap : Nat) (h : 0 < cap) : CStr cap :=
  if ipHost = 0 then ⟨[], h, List.not_mem_nil⟩ else strncpy cap h (inetNtoa (be32 ipHost))

/-- The client's buffers for a `GetState`. -/
structure StateBuffers where
  connected : UInt32
  enabled : UInt32
  selIndex : UInt32
  host : Bytes
  port : UInt32
  localIp : Bytes
  realIp : Bytes

/-- `GetState`.  `realIp` is the result of `GetRealIp`. -/
def getState (S : Service) (rt : RuntimeCfg) (realIp : UInt32) (out : StateBuffers) : StateBuffers where
  connected := if S.relay.connected then 1 else 0
  enabled := if S.relayEnabled then 1 else 0
  selIndex := (Int32.ofInt rt.selIndex).toUInt32
  host := copyStr out.host (rt.getSelectedHostPort 16 (by decide)).1.bytes
  port := (rt.getSelectedHostPort 16 (by decide)).2.toUInt32
  localIp := copyStr out.localIp (ipToStr S.lastBridgedLocalIp 16 (by decide)).bytes
  realIp := copyStr out.realIp (ipToStr realIp 16 (by decide)).bytes

/-- The buffers of the overlay's `refresh`. -/
def overlayBuffers : StateBuffers where
  connected := 0
  enabled := 1
  selIndex := 0
  host := List.replicate 128 0
  port := 0
  localIp := List.replicate 16 0
  realIp := List.replicate 16 0

/-- The overlay is told the host and the port that are dialled. -/
structure TellsDialled (S : Service) (rt : RuntimeCfg) (realIp : UInt32) : Prop where
  host : cstr (getState S rt realIp overlayBuffers).host = rt.connectHostPort.1.bytes
  port : (getState S rt realIp overlayBuffers).port.toNat = rt.connectHostPort.2.toNat

/-! ## Copies -/

theorem cstr_copyStr {out str : Bytes} (h0 : 0 ∉ str) (h : str.length < min out.length 128) : cstr (copyStr out str) = str := by
  have hbytes : (strncpy 128 (by decide) str).bytes = str := strncpy_bytes (by decide) (by omega) h0
  rw [copyStr, CStr.cstr_take_buffer _ (by rw [hbytes]; split <;> omega), hbytes]

theorem not_mem_selectedHost (rt : RuntimeCfg) : 0 ∉ rt.selectedHost := by
  unfold selectedHost
  split
  · rename_i s _
    exact s.host.no_nul
  · decide

theorem length_selectedHost (rt : RuntimeCfg) : rt.selectedHost.length < 128 := by
  unfold selectedHost
  split
  · rename_i s _
    exact s.host.fits
  · decide

/-- **`GetSelectedHostPort` gives as much of the host as the buffer takes**, and the port whatever the buffer. -/
theorem getSelectedHostPort_eq (rt : RuntimeCfg) {cap : Nat} (h : 0 < cap) :
    (rt.getSelectedHostPort cap h).1.bytes = rt.selectedHost.take (cap - 1) ∧
    (rt.getSelectedHostPort cap h).2 = rt.connectHostPort.2 := by
  have h0 := cstr_of_not_mem (not_mem_selectedHost rt)
  unfold connectHostPort getSelectedHostPort
  unfold selectedHost at h0 ⊢
  cases hsel : rt.selected with
  | none => exact ⟨rfl, rfl⟩
  | some s =>
    rw [hsel] at h0
    exact ⟨congrArg (List.take (cap - 1)) h0, rfl⟩

theorem connectHostPort_host (rt : RuntimeCfg) : rt.connectHostPort.1.bytes = rt.selectedHost := by
  have hlen := length_selectedHost rt
  rw [connectHostPort, (getSelectedHostPort_eq rt _).1]
  exact List.take_of_length_le (by omega)

theorem cstr_host (S : Service) (rt : RuntimeCfg) (realIp : UInt32) {out : StateBuffers} (h : 16 ≤ out.host.length) :
    cstr (getState S rt realIp out).host = rt.selectedHost.take 15 := by
  have hbytes := (getSelectedHostPort_eq rt (show 0 < 16 by decide)).1
  have hlen : (rt.selectedHost.take 15).length ≤ 15 := List.length_take_le 15 _
  show cstr (copyStr out.host _) = _
  rw [hbytes, show 16 - 1 = 15 from rfl]
  exact cstr_copyStr (fun h0 => not_mem_selectedHost rt (List.mem_of_mem_take h0)) (by omega)

/-! ## The relay that is dialled -/

/-- **The overlay is told the relay that is dialled exactly when** the selected server's host, if a server is selected, is at
most 15 bytes long. -/
theorem tellsDialled_iff (S : Service) (rt : RuntimeCfg) (realIp : UInt32) :
    TellsDialled S rt realIp ↔ ∀ s, rt.selected = some s → s.host.bytes.length ≤ 15 := by
  have hsize : 16 ≤ overlayBuffers.host.length := by
    show 16 ≤ (List.replicate 128 (0 : UInt8)).length
    rw [List.length_replicate]
    decide
  have htold := cstr_host S rt realIp hsize
  have hport : (getState S rt realIp overlayBuffers).port.toNat = rt.connectHostPort.2.toNat := by
    show (rt.getSelectedHostPort 16 (by decide)).2.toUInt32.toNat = _
    rw [UInt16.toNat_toUInt32, (getSelectedHostPort_eq rt _).2]
  have hshort : TellsDialled S rt realIp ↔ rt.selectedHost.length ≤ 15 := by
    constructor
    · intro h
      have hhost := h.host
      rw [htold, connectHostPort_host, List.take_eq_self_iff] at hhost
      exact hhost
    · intro h
      exact ⟨by rw [htold, connectHostPort_host, List.take_of_length_le h], hport⟩
  rw [hshort, selectedHost]
  cases rt.selected with
  | none => exact iff_of_true (by decide) (fun s hs => by cases hs)
  | some s => exact ⟨fun h s' hs => by cases hs; exact h, fun h => h s rfl⟩

/-- The line "relay relay.example.org 11451". -/
def longHost : Bytes :=
  [114, 101, 108, 97, 121, 32, 114, 101, 108, 97, 121, 46, 101, 120, 97, 109, 112, 108, 101, 46, 111, 114, 103, 32,
    49, 49, 52, 53, 49, 10]

def longHostLoaded : RuntimeCfg := after { list := ⟨[], Nat.zero_le _⟩ } (.reloadServers (some longHost))

/-- **Of relay.example.org, relay.example.o is told.** -/
theorem not_tellsDialled_longHost : ¬ TellsDialled {} longHostLoaded 0 ∧
    longHostLoaded.connectHostPort.1.bytes = (longHost.drop 6).take 17 ∧
    cstr (getState {} longHostLoaded 0 overlayBuffers).host = (longHost.drop 6).take 15 := by
  have hdialled : longHostLoaded.connectHostPort.1.bytes = (longHost.drop 6).take 17 := by decide +kernel
  have htold : cstr (getState {} longHostLoaded 0 overlayBuffers).host = (longHost.drop 6).take 15 := by decide +kernel
  refine ⟨fun h => ?_, hdialled, htold⟩
  have hhost := h.host
  rw [htold, hdialled] at hhost
  exact absurd hhost (by decide)

end ConfigService
end Slp
