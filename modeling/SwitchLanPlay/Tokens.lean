import Mathlib.Data.List.TakeWhile
import Mathlib.Tactic.Ring
import SwitchLanPlay.CStrings
/-!
# Tokens — the words of a text and the numbers they write

`tokens` are the longest runs of a text without whitespace.  A row of `%Ns` conversions sees nothing else of the text
(`scanTokens_eq`): each takes the start of a token, and what it leaves over spills into the next.  `decimalValue` is the number
that a whole word writes; `strtol` agrees with it, and reads a number from words that write none.
-/
namespace Wire
namespace CStrings

/-! ## Words -/

/-- The text goes on with a word. -/
def startsToken : Bytes → Bool
  | [] => false
  | c :: _ => !isspace c

def tokens : Bytes → List Bytes
  | [] => []
  | c :: s => if isspace c then tokens s else if startsToken s then consLine c (tokens s) else [c] :: tokens s

def IsWord (w : Bytes) : Prop := ∀ c ∈ w, isspace c = false

def IsBlank (s : Bytes) : Prop := ∀ c ∈ s, isspace c = true

theorem IsWord.cons {c : UInt8} {w : Bytes} (h : IsWord (c :: w)) : isspace c = false ∧ IsWord w :=
  List.forall_mem_cons.1 h

theorem IsWord.drop {w : Bytes} (h : IsWord w) (n : Nat) : IsWord (w.drop n) := fun c hc => h c (List.mem_of_mem_drop hc)

theorem tokens_blank : ∀ {s : Bytes}, IsBlank s → ∀ rest, tokens (s ++ rest) = tokens rest
  | [], _, _ => rfl
  | c :: s, h, rest => by
    obtain ⟨hc, hs⟩ := List.forall_mem_cons.1 h
    rw [List.cons_append, tokens, if_pos hc]
    exact tokens_blank hs rest

theorem tokens_of_blank {s : Bytes} (h : IsBlank s) : tokens s = [] := by
  have := tokens_blank h []
  rwa [List.append_nil] at this

/-- **A run of word bytes that whitespace or the end closes is a token.** -/
theorem tokens_word : ∀ {w rest : Bytes}, w ≠ [] → IsWord w → startsToken rest = false → tokens (w ++ rest) = w :: tokens rest
  | [], _, h, _, _ => absurd rfl h
  | [c], rest, _, hw, hrest => by
    rw [List.singleton_append, tokens, if_neg (by simp [hw.cons.1]), if_neg (by simp [hrest])]
  | c :: d :: w, rest, _, hw, hrest => by
    have ih : tokens (d :: w ++ rest) = (d :: w) :: tokens rest := tokens_word (by simp) hw.cons.2 hrest
    have hstart : startsToken (d :: w ++ rest) = true := by
      show (!isspace d) = true
      rw [hw.cons.2.cons.1]
      rfl
    rw [List.cons_append, tokens, if_neg (by simp [hw.cons.1]), if_pos hstart, ih]
    rfl

theorem tokens_self {w : Bytes} (hne : w ≠ []) (hw : IsWord w) : tokens w = [w] := by
  have h := tokens_word hne hw (show startsToken [] = false from rfl)
  rw [List.append_nil] at h
  exact h

/-- **A text is blank, or blank up to its first token.** -/
theorem token_cases (s : Bytes) : IsBlank s ∨
    ∃ blank w rest, s = blank ++ (w ++ rest) ∧ IsBlank blank ∧ w ≠ [] ∧ IsWord w ∧ startsToken rest = false := by
  have hblank : IsBlank (s.takeWhile isspace) := fun c hc => List.mem_takeWhile_imp hc
  have hsplit := List.takeWhile_append_dropWhile (p := isspace) (l := s)
  cases hdrop : s.dropWhile isspace with
  | nil =>
    rw [hdrop, List.append_nil] at hsplit
    exact .inl (hsplit ▸ hblank)
  | cons c r =>
    have hc : isspace c = false := by
      have := List.head_dropWhile_not isspace (l := s) (by simp [hdrop])
      simpa [hdrop] using this
    have hword := List.takeWhile_append_dropWhile (p := fun c => !isspace c) (l := c :: r)
    refine .inr ⟨_, (c :: r).takeWhile (fun c => !isspace c), (c :: r).dropWhile (fun c => !isspace c), ?_, hblank, ?_, ?_, ?_⟩
    · rw [hword, ← hdrop, hsplit]
    · rw [List.takeWhile_cons_of_pos (by simp [hc])]
      exact List.cons_ne_nil _ _
    · intro d hd
      simpa using List.mem_takeWhile_imp hd
    · cases hrest : (c :: r).dropWhile (fun c => !isspace c) with
      | nil => rfl
      | cons d t =>
        have := List.head_dropWhile_not (fun c => !isspace c) (l := c :: r) (by simp [hrest])
        simpa [hrest, startsToken] using this

theorem tokens_cases {s blank w rest : Bytes} (hs : s = blank ++ (w ++ rest)) (hblank : IsBlank blank) (hne : w ≠ [])
    (hw : IsWord w) (hrest : startsToken rest = false) : tokens s = w :: tokens rest := by
  rw [hs, tokens_blank hblank, tokens_word hne hw hrest]

theorem isWord_of_mem_tokens (s : Bytes) {t : Bytes} (h : t ∈ tokens s) : t ≠ [] ∧ IsWord t := by
  rcases token_cases s with hblank | ⟨blank, w, rest, hs, hblank, hne, hw, hrest⟩
  · rw [tokens_of_blank hblank] at h
    cases h
  · rw [tokens_cases hs hblank hne hw hrest] at h
    rcases List.mem_cons.1 h with rfl | hmem
    · exact ⟨hne, hw⟩
    · exact isWord_of_mem_tokens rest hmem
termination_by s.length
decreasing_by
  have := List.length_pos_iff.2 hne
  rw [hs, List.length_append, List.length_append]
  omega

theorem mem_of_mem_tokens (s : Bytes) {t : Bytes} (h : t ∈ tokens s) {c : UInt8} (hc : c ∈ t) : c ∈ s := by
  rcases token_cases s with hblank | ⟨blank, w, rest, hs, hblank, hne, hw, hrest⟩
  · rw [tokens_of_blank hblank] at h
    cases h
  · rw [tokens_cases hs hblank hne hw hrest] at h
    rw [hs]
    rcases List.mem_cons.1 h with rfl | hmem
    · exact List.mem_append_right _ (List.mem_append_left _ hc)
    · exact List.mem_append_right _ (List.mem_append_right _ (mem_of_mem_tokens rest hmem hc))
termination_by s.length
decreasing_by
  have := List.length_pos_iff.2 hne
  rw [hs, List.length_append, List.length_append]
  omega

/-! ## Texts that go on -/

/-- The tokens of a text that goes on: the last one may grow, and more may follow. -/
inductive GoesOn : List Bytes → List Bytes → Prop
  | nil (ts : List Bytes) : GoesOn [] ts
  | last (t u : Bytes) (ts : List Bytes) : GoesOn [t] ((t ++ u) :: ts)
  | cons (t : Bytes) {ts us : List Bytes} (h : GoesOn ts us) : GoesOn (t :: ts) (t :: us)

theorem tokens_append (s more : Bytes) : GoesOn (tokens s) (tokens (s ++ more)) := by
  rcases token_cases s with hblank | ⟨blank, w, rest, hs, hblank, hne, hw, hrest⟩
  · rw [tokens_of_blank hblank]
    exact .nil _
  · have htokens := tokens_cases hs hblank hne hw hrest
    cases rest with
    | cons c r =>
      have hmore : tokens (s ++ more) = w :: tokens (c :: r ++ more) := by
        refine tokens_cases ?_ hblank hne hw hrest
        rw [hs, List.append_assoc, List.append_assoc]
      rw [htokens, hmore]
      exact .cons w (tokens_append (c :: r) more)
    | nil =>
      -- the word ends with the text: the word bytes that follow belong to it
      have hword := List.takeWhile_append_dropWhile (p := fun c => !isspace c) (l := more)
      have hstop : startsToken (more.dropWhile (fun c => !isspace c)) = false := by
        cases hdrop : more.dropWhile (fun c => !isspace c) with
        | nil => rfl
        | cons d t =>
          have := List.head_dropWhile_not (fun c => !isspace c) (l := more) (by simp [hdrop])
          simpa [hdrop, startsToken] using this
      have hmore : tokens (s ++ more) = (w ++ more.takeWhile (fun c => !isspace c)) ::
          tokens (more.dropWhile (fun c => !isspace c)) := by
        refine tokens_cases ?_ hblank (by simp [hne]) ?_ hstop
        · rw [hs, List.append_nil, List.append_assoc, List.append_assoc, hword]
        · intro c hc
          rcases List.mem_append.1 hc with hc | hc
          · exact hw c hc
          · simpa using List.mem_takeWhile_imp hc
      rw [htokens, hmore]
      exact .last _ _ _
termination_by s.length
decreasing_by
  have := List.length_pos_iff.2 hne
  rw [hs, List.length_append, List.length_append]
  omega

theorem tokens_append_blank (s : Bytes) {blank : Bytes} (h : IsBlank blank) : tokens (s ++ blank) = tokens s := by
  rcases token_cases s with hs | ⟨pre, w, rest, hs, hpre, hne, hw, hrest⟩
  · rw [tokens_blank hs, tokens_of_blank h, tokens_of_blank hs]
  · have hstop : startsToken (rest ++ blank) = false := by
      cases rest with
      | cons c r => exact hrest
      | nil =>
        cases blank with
        | nil => rfl
        | cons b bs =>
          show (!isspace b) = false
          rw [h b List.mem_cons_self]
          rfl
    have hmore : tokens (s ++ blank) = w :: tokens (rest ++ blank) := by
      refine tokens_cases ?_ hpre hne hw hstop
      rw [hs, List.append_assoc, List.append_assoc]
    rw [hmore, tokens_append_blank rest h, tokens_cases hs hpre hne hw hrest]
termination_by s.length
decreasing_by
  have := List.length_pos_iff.2 hne
  rw [hs, List.length_append, List.length_append]
  omega

/-! ## Conversions -/

/-- What conversions of these widths make of the tokens: each takes the start of the next one, and leaves over what it does not
take. -/
def scanned : List Nat → List Bytes → List Bytes
  | [], _ => []
  | _ :: _, [] => []
  | n :: ns, t :: ts => t.take n :: scanned ns (if t.length ≤ n then ts else t.drop n :: ts)

theorem scanToken_of_blank {s : Bytes} (h : IsBlank s) (n : Nat) : scanToken n s = none := by
  rw [scanToken, List.dropWhile_eq_nil_iff.2 h]

theorem scanToken_of_word {blank w rest : Bytes} (hblank : IsBlank blank) (hne : w ≠ []) (hw : IsWord w)
    (hrest : startsToken rest = false) (n : Nat) :
    scanToken n (blank ++ (w ++ rest)) = some (w.take n, w.drop n ++ rest) := by
  have hstart : (blank ++ (w ++ rest)).dropWhile isspace = w ++ rest := by
    rw [List.dropWhile_append_of_pos hblank]
    cases w with
    | nil => exact absurd rfl hne
    | cons c w => rw [List.cons_append, List.dropWhile_cons_of_neg (by simp [hw.cons.1])]
  have hword : (w ++ rest).takeWhile (fun c => !isspace c) = w := by
    rw [List.takeWhile_append_of_pos (fun c hc => by simp [hw c hc])]
    cases rest with
    | nil => exact List.append_nil w
    | cons c r =>
      have hc : isspace c = true := by simpa [startsToken] using hrest
      rw [List.takeWhile_cons_of_neg (by simp [hc]), List.append_nil]
  have hdrop : (w ++ rest).drop (w.take n).length = w.drop n ++ rest := by
    rw [List.length_take]
    by_cases hn : n ≤ w.length
    · rw [Nat.min_eq_left hn, List.drop_append_of_le_length hn]
    · rw [Nat.min_eq_right (by omega), List.drop_left, List.drop_eq_nil_of_le (by omega), List.nil_append]
  cases hcons : w ++ rest with
  | nil => exact absurd (List.append_eq_nil_iff.1 hcons).1 hne
  | cons c r =>
    rw [hcons] at hstart hword hdrop
    rw [scanToken, hstart]
    show some (((c :: r).takeWhile (fun c => !isspace c)).take n, _) = _
    rw [hword, hdrop]

/-- **A row of conversions sees the tokens of a text and nothing else.** -/
theorem scanTokens_eq : ∀ (ns : List Nat) (s : Bytes), scanTokens ns s = scanned ns (tokens s)
  | [], s => by cases tokens s <;> rfl
  | n :: ns, s => by
    have ih := scanTokens_eq ns
    rcases token_cases s with hblank | ⟨blank, w, rest, hs, hblank, hne, hw, hrest⟩
    · rw [scanTokens, scanToken_of_blank hblank, tokens_of_blank hblank]
      rfl
    · rw [tokens_cases hs hblank hne hw hrest, scanTokens, hs, scanToken_of_word hblank hne hw hrest]
      show w.take n :: scanTokens ns (w.drop n ++ rest) = w.take n :: scanned ns _
      rw [ih]
      by_cases hfit : w.length ≤ n
      · rw [if_pos hfit, List.drop_eq_nil_of_le hfit, List.nil_append]
      · rw [if_neg hfit, tokens_word (by rw [ne_eq, List.drop_eq_nil_iff]; exact hfit) (hw.drop n) hrest]

/-! ## Numbers -/

/-- The number that a run of digits writes. -/
def digitsValue (s : Bytes) : Option Nat := if s ≠ [] ∧ s.all isdigit = true then some (decimal s) else none

/-- The number that a whole word writes, with or without a sign. -/
def decimalValue : Bytes → Option Int
  | [] => none
  | c :: r =>
    if c = 45 then (digitsValue r).map (fun n : Nat => -(n : Int))
    else if c = 43 then (digitsValue r).map Int.ofNat
    else (digitsValue (c :: r)).map Int.ofNat

theorem decimal_append (a b : Bytes) : decimal (a ++ b) = decimal a * 10 ^ b.length + decimal b := by
  have hfrom : ∀ (b : Bytes) (n : Nat),
      b.foldl (fun n d => 10 * n + (d.toNat - 48)) n = n * 10 ^ b.length + decimal b := by
    intro b
    induction b with
    | nil => intro n; simp [decimal]
    | cons d b ih =>
      intro n
      have hcons : decimal (d :: b) = (10 * 0 + (d.toNat - 48)) * 10 ^ b.length + decimal b := by
        rw [decimal, List.foldl_cons, ih]
      rw [List.foldl_cons, ih, hcons, List.length_cons, Nat.pow_succ]
      ring
  rw [decimal, List.foldl_append, hfrom]
  rfl

theorem digitsValue_eq_some {s : Bytes} {n : Nat} (h : digitsValue s = some n) :
    s ≠ [] ∧ s.all isdigit = true ∧ decimal s = n := by
  unfold digitsValue at h
  split at h
  · rename_i hs
    exact ⟨hs.1, hs.2, Option.some.inj h⟩
  · cases h

theorem isspace_of_isdigit {c : UInt8} (h : isdigit c = true) : isspace c = false := by
  simp only [isdigit, Bool.and_eq_true, decide_eq_true_eq, UInt8.le_iff_toNat_le] at h
  simp only [isspace, Bool.or_eq_false_iff, beq_eq_false_iff_ne, ne_eq, Bool.and_eq_false_iff, decide_eq_false_iff_not,
    UInt8.le_iff_toNat_le, ← UInt8.toNat_inj]
  have h48 : (48 : UInt8).toNat = 48 := rfl
  have h32 : (32 : UInt8).toNat = 32 := rfl
  have h13 : (13 : UInt8).toNat = 13 := rfl
  omega

/-- **`strtol` reads what starts a word**: if that is a positive number and the whole word writes it too, the word ends there. -/
theorem digitsValue_append {s u : Bytes} {n m : Nat} (hs : scanNat s = some n) (hpos : 0 < n)
    (h : digitsValue (s ++ u) = some m) : n ≤ m ∧ (m = n → u = [] ∧ digitsValue s = some n) := by
  obtain ⟨-, hall, hm⟩ := digitsValue_eq_some h
  have hsall : ∀ c ∈ s, isdigit c = true := fun c hc => List.all_eq_true.1 hall c (List.mem_append_left _ hc)
  have hself : s.takeWhile isdigit = s := List.takeWhile_eq_self_iff.2 hsall
  rw [scanNat, hself] at hs
  cases s with
  | nil => cases hs
  | cons d ds =>
    have hn : decimal (d :: ds) = n := Option.some.inj hs
    rw [decimal_append, hn] at hm
    have hpow : 1 ≤ 10 ^ u.length := Nat.one_le_pow _ _ (by decide)
    have hle : n * 1 ≤ n * 10 ^ u.length := Nat.mul_le_mul_left n hpow
    refine ⟨by omega, fun heq => ⟨?_, ?_⟩⟩
    · by_contra hne
      have hten : 10 ≤ 10 ^ u.length := by
        calc 10 = 10 ^ 1 := rfl
          _ ≤ 10 ^ u.length := Nat.pow_le_pow_right (by decide) (List.length_pos_iff.2 hne)
      have hmul : n * 10 ≤ n * 10 ^ u.length := Nat.mul_le_mul_left n hten
      omega
    · rw [digitsValue, if_pos ⟨List.cons_ne_nil _ _, List.all_eq_true.2 hsall⟩, hn]

theorem scanNat_of_digitsValue {s : Bytes} {n : Nat} (h : digitsValue s = some n) : scanNat s = some n := by
  obtain ⟨hne, hall, hn⟩ := digitsValue_eq_some h
  have hself : s.takeWhile isdigit = s := List.takeWhile_eq_self_iff.2 (fun c hc => List.all_eq_true.1 hall c hc)
  rw [scanNat, hself]
  cases s with
  | nil => exact absurd rfl hne
  | cons d ds => exact congrArg some hn

theorem scanDecimal_word {c : UInt8} {r : Bytes} (hc : isspace c = false) :
    scanDecimal (c :: r) =
      if c = 45 then (scanNat r).map (fun n : Nat => -(n : Int))
      else if c = 43 then (scanNat r).map Int.ofNat
      else (scanNat (c :: r)).map Int.ofNat := by
  rw [scanDecimal, List.dropWhile_cons_of_neg (by simp [hc])]
  by_cases h45 : c = 45
  · simp only [if_pos h45]
    cases scanNat r <;> rfl
  · simp only [if_neg h45]

theorem scanDecimal_of_decimalValue {s : Bytes} {v : Int} (h : decimalValue s = some v) : scanDecimal s = some v := by
  cases s with
  | nil => cases h
  | cons c r =>
    rw [decimalValue] at h
    by_cases h45 : c = 45
    · rw [if_pos h45] at h
      obtain ⟨n, hn, rfl⟩ := Option.map_eq_some_iff.1 h
      rw [scanDecimal_word (by subst h45; decide), if_pos h45, scanNat_of_digitsValue hn]
      rfl
    rw [if_neg h45] at h
    by_cases h43 : c = 43
    · rw [if_pos h43] at h
      obtain ⟨n, hn, rfl⟩ := Option.map_eq_some_iff.1 h
      rw [scanDecimal_word (by subst h43; decide), if_neg h45, if_pos h43, scanNat_of_digitsValue hn]
      rfl
    · rw [if_neg h43] at h
      obtain ⟨n, hn, rfl⟩ := Option.map_eq_some_iff.1 h
      have hdigit : isdigit c = true := List.all_eq_true.1 (digitsValue_eq_some hn).2.1 c List.mem_cons_self
      rw [scanDecimal_word (isspace_of_isdigit hdigit), if_neg h45, if_neg h43, scanNat_of_digitsValue hn]
      rfl

/-- **A whole word's number, read from its start, is the number of the start alone.** -/
theorem decimalValue_append {s u : Bytes} (hs : IsWord s) {v : Int} (hv : 0 < v) (hscan : scanDecimal s = some v)
    (h : decimalValue (s ++ u) = some v) : u = [] ∧ decimalValue s = some v := by
  cases s with
  | nil => cases hscan
  | cons c r =>
    rw [scanDecimal_word hs.cons.1] at hscan
    rw [List.cons_append, decimalValue] at h
    rw [decimalValue]
    by_cases h45 : c = 45
    · rw [if_pos h45] at hscan
      obtain ⟨n, -, rfl⟩ := Option.map_eq_some_iff.1 hscan
      omega
    rw [if_neg h45] at hscan h ⊢
    by_cases h43 : c = 43
    · rw [if_pos h43] at hscan h ⊢
      obtain ⟨n, hn, rfl⟩ := Option.map_eq_some_iff.1 hscan
      obtain ⟨m, hm, hmn⟩ := Option.map_eq_some_iff.1 h
      obtain ⟨-, hend⟩ := digitsValue_append hn (Int.natCast_pos.1 hv) hm
      obtain ⟨hu, hval⟩ := hend (Int.ofNat.inj hmn)
      exact ⟨hu, by rw [hval]; rfl⟩
    · rw [if_neg h43] at hscan h ⊢
      obtain ⟨n, hn, rfl⟩ := Option.map_eq_some_iff.1 hscan
      obtain ⟨m, hm, hmn⟩ := Option.map_eq_some_iff.1 h
      obtain ⟨-, hend⟩ := digitsValue_append (s := c :: r) hn (Int.natCast_pos.1 hv) hm
      obtain ⟨hu, hval⟩ := hend (Int.ofNat.inj hmn)
      exact ⟨hu, by rw [hval]; rfl⟩

/-- **A number that `strtol` did not clamp is the one it read.** -/
theorem strtol_eq {s : Bytes} {v : Int} (hpos : 0 < v) (hmax : v < LONG_MAX) : strtol s = v ↔ scanDecimal s = some v := by
  rw [strtol]
  cases h : scanDecimal s with
  | none =>
    simp only [Option.map_none, Option.getD_none, reduceCtorEq, iff_false]
    omega
  | some w =>
    have hmin : LONG_MIN = -9223372036854775808 := rfl
    rw [Option.map_some, Option.getD_some, Option.some.injEq, clampLong]
    by_cases hlow : w < LONG_MIN
    · rw [if_pos hlow]
      omega
    · rw [if_neg hlow]
      by_cases hhigh : LONG_MAX < w
      · rw [if_pos hhigh]
        omega
      · rw [if_neg hhigh]

/-! ## Writing numbers -/

def digitsText (n : Nat) : Bytes := (Nat.toDigits 10 n).map (fun c => c.toNat.toUInt8)

theorem digitsText_of_lt {n : Nat} (h : n < 10) : digitsText n = [UInt8.ofNat (48 + n)] := by
  rw [digitsText, Nat.toDigits_of_lt_base h]
  have hall : ∀ n < 10, [n.digitChar].map (fun c => c.toNat.toUInt8) = [UInt8.ofNat (48 + n)] := by decide
  exact hall n h

theorem digitsText_of_le {n : Nat} (h : 10 ≤ n) : digitsText n = digitsText (n / 10) ++ digitsText (n % 10) := by
  rw [digitsText, Nat.toDigits_of_base_le (by decide) h, List.map_append, digitsText, digitsText,
    Nat.toDigits_of_lt_base (Nat.mod_lt n (by decide))]

theorem digitsText_ne_nil (n : Nat) : digitsText n ≠ [] := by
  rw [digitsText, ne_eq, List.map_eq_nil_iff]
  exact Nat.toDigits_ne_nil

theorem digitsValue_digitsText (n : Nat) : digitsValue (digitsText n) = some n := by
  have hboth : (digitsText n).all isdigit = true ∧ decimal (digitsText n) = n := by
    induction n using Nat.strong_induction_on with
    | _ n ih =>
      by_cases hn : n < 10
      · rw [digitsText_of_lt hn]
        have hall : ∀ n < 10, [UInt8.ofNat (48 + n)].all isdigit = true ∧ decimal [UInt8.ofNat (48 + n)] = n := by decide
        exact hall n hn
      · obtain ⟨ha, hd⟩ := ih (n / 10) (by omega)
        obtain ⟨ha', hd'⟩ := ih (n % 10) (by omega)
        have hlen : (digitsText (n % 10)).length = 1 := by
          rw [digitsText_of_lt (Nat.mod_lt n (by decide))]
          rfl
        rw [digitsText_of_le (by omega), List.all_append, ha, ha', decimal_append, hd, hd', hlen]
        exact ⟨rfl, by omega⟩
  rw [digitsValue, if_pos ⟨digitsText_ne_nil n, hboth.1⟩, hboth.2]

theorem decimalValue_digitsText (n : Nat) : decimalValue (digitsText n) = some (n : Int) := by
  have hval := digitsValue_digitsText n
  have hall := (digitsValue_eq_some hval).2.1
  cases hs : digitsText n with
  | nil => exact absurd hs (digitsText_ne_nil n)
  | cons c r =>
    rw [hs] at hval hall
    have hdigit : isdigit c = true := List.all_eq_true.1 hall c List.mem_cons_self
    have h45 : c ≠ 45 := by rintro rfl; cases hdigit
    have h43 : c ≠ 43 := by rintro rfl; cases hdigit
    rw [decimalValue, if_neg h45, if_neg h43, hval]
    rfl

theorem isdigit_of_mem_digitsText {n : Nat} {c : UInt8} (h : c ∈ digitsText n) : isdigit c = true :=
  List.all_eq_true.1 (digitsValue_eq_some (digitsValue_digitsText n)).2.1 c h

theorem length_digitsText_le {n k : Nat} (hk : 0 < k) (h : n < 10 ^ k) : (digitsText n).length ≤ k := by
  rw [digitsText, List.length_map]
  exact (Nat.length_toDigits_le_iff (by decide) hk).2 h

end CStrings
end Wire
