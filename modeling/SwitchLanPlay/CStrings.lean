import Mathlib.Data.List.DropRight
import SwitchLanPlay.Bytes
/-!
# CStrings — text as C reads it

A C string is given by its bytes before the terminating NUL.  `CStr cap` is what a `char[cap]` can hold.  `scanTokens` reads
the leading `%Ns` conversions of a `sscanf` format, `strtol` a decimal number, and `lines` the lines of a text.  A text cut in
two falls into the lines that end before the cut and the one that the cut goes through (`lines_cut`).
-/
namespace Wire

/-- A string in a `char[cap]`. -/
structure CStr (cap : Nat) where
  bytes : Bytes
  fits : bytes.length < cap
  no_nul : 0 ∉ bytes
deriving DecidableEq

namespace CStrings

def newline : UInt8 := 10

/-- The string that starts a buffer. -/
def cstr (b : Bytes) : Bytes := b.takeWhile (· != 0)

/-- `isspace` of the C locale. -/
def isspace (c : UInt8) : Bool := c == 32 || (9 ≤ c && c ≤ 13)

def isdigit (c : UInt8) : Bool := 48 ≤ c && c ≤ 57

/-- `strncpy(dst, src, cap - 1)` into a zeroed `char[cap]`. -/
def strncpy (cap : Nat) (h : 0 < cap) (src : Bytes) : CStr cap where
  bytes := (cstr src).take (cap - 1)
  fits := by
    have := List.length_take_le (cap - 1) (cstr src)
    omega
  no_nul h0 := by
    have := List.mem_takeWhile_imp (List.mem_of_mem_take h0)
    simp at this

theorem cstr_of_not_mem {b : Bytes} (h : 0 ∉ b) : cstr b = b := by
  apply List.takeWhile_eq_self_iff.2
  intro c hc
  rw [bne_iff_ne]
  rintro rfl
  exact h hc

theorem strncpy_bytes {cap : Nat} (hcap : 0 < cap) {w : Bytes} (hlen : w.length < cap) (h0 : 0 ∉ w) :
    (strncpy cap hcap w).bytes = w := by
  show (cstr w).take (cap - 1) = w
  rw [cstr_of_not_mem h0, List.take_of_length_le (by omega)]

/-- What stands before and after the last `c`, which is where `strrchr` points. -/
def strrchr (c : UInt8) : Bytes → Option (Bytes × Bytes)
  | [] => none
  | b :: s =>
    match strrchr c s with
    | some (pre, post) => some (b :: pre, post)
    | none => if b = c then some ([], s) else none

/-! ## Conversions -/

/-- `%Ns`: whitespace is skipped, then at most `n` bytes are taken up to the next whitespace. -/
def scanToken (n : Nat) (s : Bytes) : Option (Bytes × Bytes) :=
  match s.dropWhile isspace with
  | [] => none
  | c :: r =>
    let token := ((c :: r).takeWhile (fun c => !isspace c)).take n
    some (token, (c :: r).drop token.length)

/-- The conversions of a format made of `%Ns` that succeed. -/
def scanTokens : List Nat → Bytes → List Bytes
  | [], _ => []
  | n :: ns, s =>
    match scanToken n s with
    | none => []
    | some (token, rest) => token :: scanTokens ns rest

def decimal (digits : Bytes) : Nat := digits.foldl (fun n d => 10 * n + (d.toNat - 48)) 0

/-- The number in decimal digits that starts a string. -/
def scanNat (s : Bytes) : Option Nat :=
  match s.takeWhile isdigit with
  | [] => none
  | d :: ds => some (decimal (d :: ds))

/-- A decimal number with an optional sign, after whitespace. -/
def scanDecimal (s : Bytes) : Option Int :=
  match s.dropWhile isspace with
  | [] => none
  | c :: r =>
    if c = 45 then (scanNat r).map (fun n => -(n : Int))
    else if c = 43 then (scanNat r).map Int.ofNat
    else (scanNat (c :: r)).map Int.ofNat

def LONG_MIN : Int := -9223372036854775808

def LONG_MAX : Int := 9223372036854775807

/-- A value out of the range of `long` is taken to its nearest end. -/
def clampLong (v : Int) : Int := if v < LONG_MIN then LONG_MIN else if LONG_MAX < v then LONG_MAX else v

def strtol (s : Bytes) : Int := ((scanDecimal s).map clampLong).getD 0

/-- `%d`, read as a `long` and stored in an `int`. -/
def scanInt (s : Bytes) : Option Int := (scanDecimal s).map (fun v => (Int32.ofInt (clampLong v)).toInt)

/-! ## Lines -/

/-- The byte goes to the front of the first line. -/
def consLine (c : UInt8) : List Bytes → List Bytes
  | [] => [[c]]
  | l :: ls => (c :: l) :: ls

/-- The lines of a text, the last one with or without its newline. -/
def lines : Bytes → List Bytes
  | [] => []
  | c :: b => if c = newline then [] :: lines b else consLine c (lines b)

/-- The lines that have their newline. -/
def closedLines (b : Bytes) : List Bytes := lines (b.rdropWhile (· != newline))

/-- What follows the last newline. -/
def openLine (b : Bytes) : Bytes := b.rtakeWhile (· != newline)

theorem lines_ne_nil {b : Bytes} (h : b ≠ []) : lines b ≠ [] := by
  cases b with
  | nil => exact absurd rfl h
  | cons c b =>
    unfold lines
    split
    · simp
    · cases lines b <;> simp [consLine]

theorem lines_append_newline : ∀ a b : Bytes, lines (a ++ newline :: b) = lines (a ++ [newline]) ++ lines b
  | [], b => by simp [lines]
  | c :: a, b => by
    have ih := lines_append_newline a b
    by_cases hc : c = newline
    · simp only [List.cons_append, lines, if_pos hc, ih]
    · simp only [List.cons_append, lines, if_neg hc, ih]
      cases hl : lines (a ++ [newline]) with
      | nil => exact absurd hl (lines_ne_nil (by simp))
      | cons l ls => simp [consLine]

/-- **The lines of a text that is cut in two**: those that end before the cut, then those of what is left. -/
theorem lines_cut (a b : Bytes) : lines (a ++ b) = closedLines a ++ lines (openLine a ++ b) := by
  unfold closedLines openLine
  have ha : a.rdropWhile (· != newline) ++ a.rtakeWhile (· != newline) = a := List.rdropWhile_append_rtakeWhile
  conv_lhs => rw [← ha]
  rw [List.append_assoc]
  rcases List.eq_nil_or_concat (a.rdropWhile (· != newline)) with h | ⟨pre, c, h⟩
  · simp [h, lines]
  · rw [List.concat_eq_append] at h
    have hc : c = newline := by
      have hlast := List.rdropWhile_last_not (p := (· != newline)) (l := a) (by simp [h])
      simpa [h] using hlast
    rw [h, hc, List.append_assoc, List.singleton_append, lines_append_newline]

theorem not_mem_openLine (a : Bytes) : newline ∉ openLine a := by
  intro h
  have := List.mem_rtakeWhile_imp h
  simp at this

theorem lines_of_open : ∀ {b : Bytes}, newline ∉ b → b ≠ [] → lines b = [b]
  | [], _, h => absurd rfl h
  | c :: b, hb, _ => by
    simp only [List.mem_cons, not_or] at hb
    unfold lines
    rw [if_neg (Ne.symm hb.1)]
    cases b with
    | nil => rfl
    | cons d b => rw [lines_of_open hb.2 (by simp)]; rfl

end CStrings
end Wire
