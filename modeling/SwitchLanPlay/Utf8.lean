import SwitchLanPlay.Stripping
/-!
# Utf8 — texts in bytes, and bytes read as text

`encode` writes the characters of a text in one to four bytes each.  `decode` reads any bytes: whatever begins no character,
or only the beginning of one, becomes the replacement character, as much at a time as could have begun a character.  A text
reads back (`decode_encode`), and a text cut off within a character reads as what was before it and one replacement
character (`decode_cut`).
-/
namespace Utf8

open Wire

def replacement : Char := Char.ofNat 0xFFFD

def encodeChar (c : Char) : Bytes :=
  let v := c.toNat
  if v < 0x80 then [UInt8.ofNat v]
  else if v < 0x800 then [UInt8.ofNat (0xC0 + v / 64), UInt8.ofNat (0x80 + v % 64)]
  else if v < 0x10000 then
    [UInt8.ofNat (0xE0 + v / 4096), UInt8.ofNat (0x80 + v / 64 % 64), UInt8.ofNat (0x80 + v % 64)]
  else
    [UInt8.ofNat (0xF0 + v / 262144), UInt8.ofNat (0x80 + v / 4096 % 64), UInt8.ofNat (0x80 + v / 64 % 64),
      UInt8.ofNat (0x80 + v % 64)]

def encode (s : List Char) : Bytes := s.flatMap encodeChar

/-! ## Decoding -/

/-- The number of bytes that follow a first byte from 0x80 on, 0 for a byte that begins no character. -/
def following (b : Nat) : Nat :=
  if b < 0xC2 then 0 else if b < 0xE0 then 1 else if b < 0xF0 then 2 else if b < 0xF5 then 3 else 0

/-- The bits of the first byte that count. -/
def leadBits (b : Nat) : Nat := if b < 0xE0 then b - 0xC0 else if b < 0xF0 then b - 0xE0 else b - 0xF0

def isTail (c : Nat) : Bool := decide (0x80 ≤ c) && decide (c < 0xC0)

/-- Which second bytes go with a first byte: none that spells a smaller number, a surrogate or one past the last character. -/
def isSecond (b c : Nat) : Bool :=
  isTail c && (b != 0xE0 || decide (0xA0 ≤ c)) && (b != 0xED || decide (c < 0xA0)) &&
    (b != 0xF0 || decide (0x90 ≤ c)) && (b != 0xF4 || decide (c < 0x90))

/-- The last bytes of a character whose bits so far are `v`. -/
def decodeTail : Nat → Nat → Bytes → Char × Bytes
  | 0, v, s => (Char.ofNat v, s)
  | _ + 1, _, [] => (replacement, [])
  | n + 1, v, c :: s => if isTail c.toNat then decodeTail n (v * 64 + c.toNat % 64) s else (replacement, c :: s)

/-- The character that begins with `b`, and the bytes left. -/
def decodeChar (b : UInt8) (s : Bytes) : Char × Bytes :=
  if b.toNat < 0x80 then (Char.ofNat b.toNat, s)
  else
    match following b.toNat, s with
    | 0, s => (replacement, s)
    | _ + 1, [] => (replacement, [])
    | n + 1, c :: s =>
      if isSecond b.toNat c.toNat then decodeTail n (leadBits b.toNat * 64 + c.toNat % 64) s else (replacement, c :: s)

theorem length_decodeTail_le : ∀ (n v : Nat) (s : Bytes), (decodeTail n v s).2.length ≤ s.length
  | 0, _, _ => Nat.le_refl _
  | _ + 1, _, [] => Nat.le_refl _
  | n + 1, v, c :: s => by
    rw [decodeTail]
    split
    · exact Nat.le_succ_of_le (length_decodeTail_le n _ s)
    · exact Nat.le_refl _

theorem length_decodeChar_le (b : UInt8) (s : Bytes) : (decodeChar b s).2.length ≤ s.length := by
  unfold decodeChar
  split
  · exact Nat.le_refl _
  · split
    · exact Nat.le_refl _
    · exact Nat.le_refl _
    · split
      · exact Nat.le_succ_of_le (length_decodeTail_le _ _ _)
      · exact Nat.le_refl _

def decode : Bytes → List Char
  | [] => []
  | b :: s => (decodeChar b s).1 :: decode (decodeChar b s).2
termination_by s => s.length
decreasing_by exact Nat.lt_succ_of_le (length_decodeChar_le b s)

/-! ## One character -/

theorem toNat_ofNat {n : Nat} (h : n < 256) : (UInt8.ofNat n).toNat = n := UInt8.toNat_ofNat_of_lt' h

theorem toNat_lt (c : Char) : c.toNat < 0xD800 ∨ 0xDFFF < c.toNat ∧ c.toNat < 0x110000 := c.valid

/-- The bits of the bytes after the second, behind those before them. -/
def tailBits (v : Nat) (t : Bytes) : Nat := t.foldl (fun v c => v * 64 + c.toNat % 64) v

theorem decodeTail_read (rest : Bytes) : ∀ (t : Bytes) (v : Nat), (∀ c ∈ t, isTail c.toNat = true) →
    decodeTail t.length v (t ++ rest) = (Char.ofNat (tailBits v t), rest)
  | [], _, _ => rfl
  | c :: t, v, h => by
    rw [List.length_cons, List.cons_append, decodeTail, if_pos (h c (List.mem_cons_self ..)),
      decodeTail_read rest t _ fun d hd => h d (List.mem_cons_of_mem _ hd)]
    rfl

theorem decodeTail_cut : ∀ (t : Bytes) (v : Nat), (∀ c ∈ t, isTail c.toNat = true) → ∀ k, k < t.length →
    decodeTail t.length v (t.take k) = (replacement, [])
  | [], _, _, k, hk => absurd hk (Nat.not_lt_zero k)
  | c :: t, v, h, 0, _ => rfl
  | c :: t, v, h, k + 1, hk => by
    rw [List.length_cons, List.take_succ_cons, decodeTail, if_pos (h c (List.mem_cons_self ..))]
    exact decodeTail_cut t _ (fun d hd => h d (List.mem_cons_of_mem _ hd)) k (Nat.lt_of_succ_lt_succ hk)

section Lead

variable {b c : UInt8} {t : Bytes}

theorem decodeChar_cons (hb : 0x80 ≤ b.toNat) (hfollow : following b.toNat = t.length + 1)
    (hsecond : isSecond b.toNat c.toNat = true) (s : Bytes) :
    decodeChar b (c :: s) = decodeTail t.length (leadBits b.toNat * 64 + c.toNat % 64) s := by
  unfold decodeChar
  rw [if_neg (by omega), hfollow]
  exact if_pos hsecond

/-- **A character of two or more bytes is read from them, and its beginnings as the replacement character.** -/
theorem decodeChar_lead (hb : 0x80 ≤ b.toNat) (hfollow : following b.toNat = t.length + 1)
    (hsecond : isSecond b.toNat c.toNat = true) (htail : ∀ d ∈ t, isTail d.toNat = true) :
    (∀ rest, decodeChar b (c :: t ++ rest) = (Char.ofNat (tailBits (leadBits b.toNat * 64 + c.toNat % 64) t), rest)) ∧
      ∀ k, k < (c :: t).length → decodeChar b ((c :: t).take k) = (replacement, []) := by
  constructor
  · intro rest
    rw [List.cons_append, decodeChar_cons hb hfollow hsecond, decodeTail_read rest t _ htail]
  · intro k hk
    cases k with
    | zero =>
      unfold decodeChar
      rw [List.take_zero, if_neg (by omega), hfollow]
    | succ k =>
      rw [List.take_succ_cons, decodeChar_cons hb hfollow hsecond,
        decodeTail_cut t _ htail k (Nat.lt_of_succ_lt_succ hk)]

end Lead

theorem isTail_ofNat (n : Nat) : isTail (UInt8.ofNat (0x80 + n % 64)).toNat = true := by
  rw [toNat_ofNat (by omega)]
  simp only [isTail, Bool.and_eq_true, decide_eq_true_eq]
  omega

theorem tail_ofNat (n : Nat) : (UInt8.ofNat (0x80 + n % 64)).toNat % 64 = n % 64 := by
  rw [toNat_ofNat (by omega)]
  omega

theorem isSecond_ofNat {b n : Nat} (h0 : b = 0xE0 → 32 ≤ n % 64) (h1 : b = 0xED → n % 64 < 32) (h2 : b = 0xF0 → 16 ≤ n % 64)
    (h3 : b = 0xF4 → n % 64 < 16) : isSecond b (UInt8.ofNat (0x80 + n % 64)).toNat = true := by
  rw [isSecond, isTail_ofNat, toNat_ofNat (by omega)]
  simp only [Bool.and_eq_true, Bool.or_eq_true, bne_iff_ne, decide_eq_true_eq, true_and]
  omega

/-- **The bytes of a character are read as it, and the beginnings of them as the replacement character.** -/
theorem decodeChar_encodeChar (c : Char) : ∃ b t, encodeChar c = b :: t ∧
    (∀ rest, decodeChar b (t ++ rest) = (c, rest)) ∧ ∀ k, k < t.length → decodeChar b (t.take k) = (replacement, []) := by
  have hv := toNat_lt c
  have hc : Char.ofNat c.toNat = c := Char.ofNat_toNat c
  unfold encodeChar
  generalize c.toNat = v at hv hc
  by_cases h1 : v < 0x80
  · have hb : (UInt8.ofNat v).toNat = v := toNat_ofNat (by omega)
    refine ⟨UInt8.ofNat v, [], by simp [h1], fun rest => ?_, fun k hk => absurd hk (Nat.not_lt_zero k)⟩
    unfold decodeChar
    rw [hb, if_pos h1, hc]
    rfl
  by_cases h2 : v < 0x800
  · have hb : (UInt8.ofNat (0xC0 + v / 64)).toNat = 0xC0 + v / 64 := toNat_ofNat (by omega)
    have hfollow : following (0xC0 + v / 64) = 1 := by
      unfold following
      rw [if_neg (by omega), if_pos (by omega)]
    have hbits : tailBits (leadBits (0xC0 + v / 64) * 64 + v % 64) [] = v := by
      unfold leadBits
      rw [if_pos (by omega)]
      show (0xC0 + v / 64 - 0xC0) * 64 + v % 64 = v
      omega
    have hlead := decodeChar_lead (b := UInt8.ofNat (0xC0 + v / 64)) (c := UInt8.ofNat (0x80 + v % 64)) (t := [])
      (by rw [hb]; omega) (by rw [hb, hfollow]; rfl)
      (by rw [hb]; exact isSecond_ofNat (by omega) (by omega) (by omega) (by omega)) (by simp)
    rw [hb, tail_ofNat, hbits, hc] at hlead
    exact ⟨_, _, by simp [h1, h2], hlead.1, hlead.2⟩
  by_cases h3 : v < 0x10000
  · have hb : (UInt8.ofNat (0xE0 + v / 4096)).toNat = 0xE0 + v / 4096 := toNat_ofNat (by omega)
    have hfollow : following (0xE0 + v / 4096) = 2 := by
      unfold following
      rw [if_neg (by omega), if_neg (by omega), if_pos (by omega)]
    have hbits : tailBits (leadBits (0xE0 + v / 4096) * 64 + v / 64 % 64) [UInt8.ofNat (0x80 + v % 64)] = v := by
      unfold leadBits
      rw [if_neg (by omega), if_pos (by omega)]
      show ((0xE0 + v / 4096 - 0xE0) * 64 + v / 64 % 64) * 64 + (UInt8.ofNat (0x80 + v % 64)).toNat % 64 = v
      rw [tail_ofNat]
      omega
    have hlead := decodeChar_lead (b := UInt8.ofNat (0xE0 + v / 4096)) (c := UInt8.ofNat (0x80 + v / 64 % 64))
      (t := [UInt8.ofNat (0x80 + v % 64)]) (by rw [hb]; omega) (by rw [hb, hfollow]; rfl)
      (by rw [hb]; exact isSecond_ofNat (by omega) (by omega) (by omega) (by omega))
      (List.forall_mem_singleton.2 (isTail_ofNat _))
    rw [hb, tail_ofNat, hbits, hc] at hlead
    exact ⟨_, _, by simp [h1, h2, h3], hlead.1, hlead.2⟩
  · have hb : (UInt8.ofNat (0xF0 + v / 262144)).toNat = 0xF0 + v / 262144 := toNat_ofNat (by omega)
    have hfollow : following (0xF0 + v / 262144) = 3 := by
      unfold following
      rw [if_neg (by omega), if_neg (by omega), if_neg (by omega), if_pos (by omega)]
    have hbits : tailBits (leadBits (0xF0 + v / 262144) * 64 + v / 4096 % 64)
        [UInt8.ofNat (0x80 + v / 64 % 64), UInt8.ofNat (0x80 + v % 64)] = v := by
      unfold leadBits
      rw [if_neg (by omega), if_neg (by omega)]
      show (((0xF0 + v / 262144 - 0xF0) * 64 + v / 4096 % 64) * 64 + (UInt8.ofNat (0x80 + v / 64 % 64)).toNat % 64) * 64 +
        (UInt8.ofNat (0x80 + v % 64)).toNat % 64 = v
      rw [tail_ofNat, tail_ofNat]
      omega
    have hlead := decodeChar_lead (b := UInt8.ofNat (0xF0 + v / 262144)) (c := UInt8.ofNat (0x80 + v / 4096 % 64))
      (t := [UInt8.ofNat (0x80 + v / 64 % 64), UInt8.ofNat (0x80 + v % 64)]) (by rw [hb]; omega)
      (by rw [hb, hfollow]; rfl) (by rw [hb]; exact isSecond_ofNat (by omega) (by omega) (by omega) (by omega))
      (List.forall_mem_cons.2 ⟨isTail_ofNat _, List.forall_mem_singleton.2 (isTail_ofNat _)⟩)
    rw [hb, tail_ofNat, hbits, hc] at hlead
    exact ⟨_, _, by simp [h1, h2, h3], hlead.1, hlead.2⟩

/-! ## Texts -/

theorem encode_cons (c : Char) (s : List Char) : encode (c :: s) = encodeChar c ++ encode s := rfl

theorem encode_append (s t : List Char) : encode (s ++ t) = encode s ++ encode t := List.flatMap_append

theorem length_encodeChar_pos (c : Char) : 0 < (encodeChar c).length := by
  obtain ⟨b, t, hbt, -⟩ := decodeChar_encodeChar c
  rw [hbt]
  exact Nat.succ_pos _

/-- **A text is read back, whatever follows it.** -/
theorem decode_encode_append : ∀ (s : List Char) (rest : Bytes), decode (encode s ++ rest) = s ++ decode rest
  | [], _ => rfl
  | c :: s, rest => by
    obtain ⟨b, t, hbt, hread, -⟩ := decodeChar_encodeChar c
    rw [encode_cons, hbt, List.cons_append, List.cons_append, List.append_assoc, decode, hread, decode_encode_append s rest]
    rfl

theorem decode_nil : decode [] = [] := by rw [decode]

theorem decode_encode (s : List Char) : decode (encode s) = s := by
  have h := decode_encode_append s []
  rwa [List.append_nil, decode_nil, List.append_nil] at h

/-- **A text cut off within a character.** -/
theorem decode_cut (s : List Char) (c : Char) {k : Nat} (h0 : 0 < k) (hk : k < (encodeChar c).length) :
    decode (encode s ++ (encodeChar c).take k) = s ++ [replacement] := by
  obtain ⟨b, t, hbt, -, hcut⟩ := decodeChar_encodeChar c
  obtain ⟨j, rfl⟩ : ∃ j, k = j + 1 := ⟨k - 1, by omega⟩
  rw [hbt, List.length_cons] at hk
  rw [decode_encode_append, hbt, List.take_succ_cons, decode, hcut j (by omega), decode_nil]

/-- **A text is cut between two characters or within one.** -/
theorem take_encode : ∀ (s : List Char) (n : Nat), n < (encode s).length →
    ∃ pre c post k, s = pre ++ c :: post ∧ (encode s).take n = encode pre ++ (encodeChar c).take k ∧
      n = (encode pre).length + k ∧ k < (encodeChar c).length
  | [], n, h => absurd h (by simp [encode])
  | c :: s, n, h => by
    rw [encode_cons, List.length_append] at h
    by_cases hn : n < (encodeChar c).length
    · refine ⟨[], c, s, n, rfl, ?_, by simp [encode], hn⟩
      rw [encode_cons, List.take_append_of_le_length (by omega)]
      rfl
    · obtain ⟨pre, d, post, k, rfl, htake, hlen, hk⟩ := take_encode s (n - (encodeChar c).length) (by omega)
      refine ⟨c :: pre, d, post, k, rfl, ?_, ?_, hk⟩
      · rw [encode_cons, List.take_append, List.take_of_length_le (by omega), htake, encode_cons, List.append_assoc]
      · rw [encode_cons, List.length_append]
        omega

/-! ## NULs at the end -/

def nul : Char := Char.ofNat 0

theorem encodeChar_nul : encodeChar nul = [0] := rfl

/-- **Only the NUL has a zero byte.** -/
theorem ne_zero_of_mem_encodeChar {c : Char} (h : c ≠ nul) : ∀ b ∈ encodeChar c, b ≠ 0 := by
  have hv : c.toNat ≠ 0 := fun he => h (by rw [← Char.ofNat_toNat c, he]; rfl)
  have hlt := toNat_lt c
  have hbyte : ∀ n, 0 < n → n < 256 → UInt8.ofNat n ≠ 0 := by
    intro n h0 hn he
    have hz := congrArg UInt8.toNat he
    rw [toNat_ofNat hn] at hz
    exact absurd hz (by simpa using Nat.ne_of_gt h0)
  unfold encodeChar
  generalize c.toNat = v at hv hlt
  intro b hb
  by_cases h1 : v < 0x80
  · simp only [h1, if_true, List.mem_singleton] at hb
    rw [hb]
    exact hbyte _ (by omega) (by omega)
  by_cases h2 : v < 0x800
  · simp only [h1, h2, if_true, if_false, List.mem_cons, List.not_mem_nil, or_false] at hb
    rcases hb with rfl | rfl <;> exact hbyte _ (by omega) (by omega)
  by_cases h3 : v < 0x10000
  · simp only [h1, h2, h3, if_true, if_false, List.mem_cons, List.not_mem_nil, or_false] at hb
    rcases hb with rfl | rfl | rfl <;> exact hbyte _ (by omega) (by omega)
  · simp only [h1, h2, h3, if_false, List.mem_cons, List.not_mem_nil, or_false] at hb
    rcases hb with rfl | rfl | rfl | rfl <;> exact hbyte _ (by omega) (by omega)

theorem rdropWhile_of_ne_zero {b : Bytes} (h : ∀ x ∈ b, x ≠ 0) : b.rdropWhile (· == 0) = b := by
  rw [List.rdropWhile_eq_self_iff]
  intro hne
  simpa using h _ (List.getLast_mem hne)

/-- **Zeros stripped off a text in bytes are the NULs at its end.** -/
theorem rdropWhile_encode (s : List Char) :
    (encode s).rdropWhile (· == 0) = encode (s.rdropWhile (· == nul)) := by
  induction s using List.reverseRecOn with
  | nil => rfl
  | append_singleton s c ih =>
    have hsplit : encode (s ++ [c]) = encode s ++ encodeChar c := by
      rw [encode_append]
      exact congrArg _ (List.append_nil _)
    by_cases hc : c = nul
    · rw [hsplit, hc, encodeChar_nul, List.rdropWhile_concat_pos _ _ _ (by decide),
        List.rdropWhile_concat_pos _ _ _ (by decide), ih]
    · have hself := rdropWhile_of_ne_zero (ne_zero_of_mem_encodeChar hc)
      have hne : (encodeChar c).rdropWhile (· == 0) ≠ [] := by
        rw [hself]
        exact List.ne_nil_of_length_pos (length_encodeChar_pos c)
      rw [hsplit, rdropWhile_append_ne hne, hself, List.rdropWhile_concat_neg _ _ _ (by simpa using hc), hsplit]

end Utf8
