import SwitchLanPlay.Servers
import SwitchLanPlay.Tokens
/-!
# ServerLines — what the server parser makes of a line

The parser sees a line up to its 167th byte, its first NUL and its first '#', and reads three words of at most 31, 127 and 7
bytes.  `fieldsOf` is what the words of a text say in full.  A line that is accepted gives what it says exactly when it is
`Whole`: its words fit, its port is a number to the end, and nothing that counts lies behind the part that is seen
(`names_iff_whole`).  A longer word spills into the next field.
-/
namespace Slp

open Wire CStrings

namespace Servers

/-! ## What a text says -/

/-- The fields of a line's words, each taken whole. -/
def fieldsOfTokens : List Bytes → Option (Bytes × Bytes × Int)
  | name :: host :: port :: _ => (decimalValue port).map (fun v => (name, host, v))
  | [name, host] =>
    match strrchr 58 host with
    | some (pre, post) => (decimalValue post).map (fun v => (name, pre, v))
    | none => some (name, host, defaultPort)
  | _ => none

def fieldsOf (s : Bytes) : Option (Bytes × Bytes × Int) := fieldsOfTokens (tokens s)

def uncommented (line : Bytes) : Bytes := line.takeWhile (· != 35)

/-- The line says that this is a server. -/
def Names (line : Bytes) (srv : SlpNxServer) : Prop :=
  fieldsOf (uncommented line) = some (srv.name.bytes, srv.host.bytes, (srv.port.toNat : Int))

/-! ## What the parser sees -/

/-- The part of a line that is parsed. -/
def seen (line : Bytes) : Bytes := (cstr (line.take (lineCap - 1))).takeWhile (· != 35)

/-- The words have the room of these fields. -/
def FitsIn : List Nat → List Bytes → Prop
  | n :: ns, t :: ts => t.length ≤ n ∧ FitsIn ns ts
  | _, _ => True

/-- The words of the part seen fit their fields, their port is a number, and the line says no more than that part. -/
structure Whole (line : Bytes) : Prop where
  fits : FitsIn [31, 127, 7] (tokens (seen line))
  number : (fieldsOf (seen line)).isSome = true
  same : fieldsOf (seen line) = fieldsOf (uncommented line)

/-- `splitFields` on the words. -/
def splitTokens (ts : List Bytes) : Option (Bytes × Bytes × Int) :=
  match scanned [31, 127, 7] ts with
  | [name, host, portstr] => some (name, host, strtol portstr)
  | _ =>
    match scanned [31, 127] ts with
    | [name, host] =>
      match strrchr 58 host with
      | some (pre, post) => some (name, pre, strtol post)
      | none => some (name, host, defaultPort)
    | _ => none

theorem splitFields_eq (line : Bytes) : splitFields line = splitTokens (tokens line) := by
  rw [splitFields, scanTokens_eq, scanTokens_eq]
  rfl

theorem tokens_trim (s : Bytes) : tokens (trim s) = tokens s := by
  have hblank : IsBlank (s.rtakeWhile (fun c => c == 10 || c == 13 || c == 32 || c == 9)) := by
    intro c hc
    have hmem := List.mem_rtakeWhile_imp hc
    simp only [Bool.or_eq_true, beq_iff_eq] at hmem
    rcases hmem with ((rfl | rfl) | rfl) | rfl <;> decide
  have hsplit : trim s ++ s.rtakeWhile (fun c => c == 10 || c == 13 || c == 32 || c == 9) = s :=
    List.rdropWhile_append_rtakeWhile
  have happend := tokens_append_blank (trim s) hblank
  rwa [hsplit, eq_comm] at happend

theorem readLine_eq (line : Bytes) : readLine line =
    match splitTokens (tokens (seen line)) with
    | none => none
    | some (name, host, port) =>
      if port < 1 ∨ port > 65535 then none
      else some ⟨strncpy _ (by decide) name, strncpy _ (by decide) host, UInt16.ofNat port.toNat⟩ := by
  have hsplit : splitFields (trim (seen line)) = splitTokens (tokens (seen line)) := by rw [splitFields_eq, tokens_trim]
  unfold readLine parseLine
  rw [← hsplit]
  by_cases hnil : trim (seen line) = []
  · have hnone : splitFields (trim (seen line)) = none := by rw [hnil]; rfl
    rw [hnone]
    exact if_pos hnil
  · exact if_neg hnil

/-- **How a line is split**: into its first words, or, when the name or the host is too long, in the middle of a word. -/
theorem splitTokens_cases {ts : List Bytes} {name host : Bytes} {port : Int} (h : splitTokens ts = some (name, host, port)) :
    (∃ t rest, ts = name :: host :: t :: rest ∧ name.length ≤ 31 ∧ host.length ≤ 127 ∧ port = strtol (t.take 7)) ∨
    (∃ t, ts = [name, t] ∧ name.length ≤ 31 ∧ t.length ≤ 127 ∧
      ((∃ post, strrchr 58 t = some (host, post) ∧ port = strtol post) ∨
        (strrchr 58 t = none ∧ host = t ∧ port = defaultPort))) ∨
    (∃ t rest, ts = t :: rest ∧ 31 < t.length ∧ name = t.take 31) ∨
    (∃ t rest, ts = name :: t :: rest ∧ name.length ≤ 31 ∧ 127 < t.length ∧ host = t.take 127 ∧
      port = strtol ((t.drop 127).take 7)) := by
  cases ts with
  | nil => cases h
  | cons t1 ts =>
    by_cases h1 : t1.length ≤ 31
    · have htake1 : t1.take 31 = t1 := List.take_of_length_le h1
      cases ts with
      | nil => simp [splitTokens, scanned, h1] at h
      | cons t2 ts =>
        by_cases h2 : t2.length ≤ 127
        · have htake2 : t2.take 127 = t2 := List.take_of_length_le h2
          cases ts with
          | nil =>
            simp only [splitTokens, scanned, h1, h2, if_true, htake1, htake2] at h
            refine .inr (.inl ?_)
            split at h
            · rename_i pre post hr
              cases h
              exact ⟨t2, rfl, h1, h2, .inl ⟨post, hr, rfl⟩⟩
            · rename_i hr
              cases h
              exact ⟨_, rfl, h1, h2, .inr ⟨hr, rfl, rfl⟩⟩
          | cons t3 ts =>
            simp only [splitTokens, scanned, h1, h2, if_true, htake1, htake2, Option.some.injEq, Prod.mk.injEq] at h
            obtain ⟨rfl, rfl, rfl⟩ := h
            exact .inl ⟨t3, ts, rfl, h1, h2, rfl⟩
        · simp only [splitTokens, scanned, h1, h2, if_true, if_false, htake1, Option.some.injEq, Prod.mk.injEq] at h
          obtain ⟨rfl, rfl, rfl⟩ := h
          exact .inr (.inr (.inr ⟨t2, ts, rfl, h1, Nat.not_le.1 h2, rfl, rfl⟩))
    · refine .inr (.inr (.inl ⟨t1, ts, rfl, Nat.not_le.1 h1, ?_⟩))
      -- whatever the rest of the word is taken for, the name is its first 31 bytes
      unfold splitTokens at h
      split at h
      · rename_i n' h' p' hscan
        rw [scanned] at hscan
        cases h
        exact (List.cons.inj hscan).1.symm
      · split at h
        · rename_i n' h' hscan
          rw [scanned] at hscan
          have hname := (List.cons.inj hscan).1
          split at h
          · cases h
            exact hname.symm
          · cases h
            exact hname.symm
        · cases h

theorem no_nul_of_mem_seen {line t : Bytes} (h : t ∈ tokens (seen line)) : 0 ∉ t := by
  intro h0
  have hseen : 0 ∈ cstr (line.take (lineCap - 1)) := (List.takeWhile_prefix _).subset (mem_of_mem_tokens _ h h0)
  have hne := List.mem_takeWhile_imp hseen
  simp at hne

theorem strrchr_eq_none : ∀ {c : UInt8} {s : Bytes}, strrchr c s = none ↔ c ∉ s
  | c, [] => by simp [strrchr]
  | c, b :: s => by
    have ih := strrchr_eq_none (c := c) (s := s)
    rw [strrchr]
    cases hr : strrchr c s with
    | some r =>
      rw [hr] at ih
      simp only [reduceCtorEq, false_iff, not_not] at ih ⊢
      exact List.mem_cons_of_mem _ ih
    | none =>
      rw [hr] at ih
      have hs : c ∉ s := ih.1 rfl
      by_cases hb : b = c
      · simp [hb]
      · simp [hb, hs, Ne.symm hb]

theorem strrchr_split : ∀ {c : UInt8} {s pre post : Bytes}, strrchr c s = some (pre, post) → s = pre ++ c :: post ∧ c ∉ post
  | c, [], _, _, h => by cases h
  | c, b :: s, pre, post, h => by
    rw [strrchr] at h
    cases hr : strrchr c s with
    | some r =>
      obtain ⟨hs, hpost⟩ := strrchr_split hr
      rw [hr] at h
      cases h
      exact ⟨by rw [hs]; rfl, hpost⟩
    | none =>
      rw [hr] at h
      obtain ⟨hb, h⟩ := Option.ite_none_right_eq_some.1 h
      cases h
      exact ⟨by rw [hb]; rfl, strrchr_eq_none.1 hr⟩

/-- **A string has one last `c`.** -/
theorem last_split_unique {c : UInt8} {a b a' b' : Bytes} (h : a ++ c :: b = a' ++ c :: b') (hb : c ∉ b) (hb' : c ∉ b') :
    a = a' ∧ b = b' := by
  have later : ∀ {r b b' : Bytes}, c :: b = r ++ c :: b' → c ∉ b → r = [] := by
    intro r b b' hr hb
    cases r with
    | nil => rfl
    | cons x r =>
      refine absurd ?_ hb
      rw [(List.cons.inj hr).2]
      exact List.mem_append_right _ List.mem_cons_self
  rcases List.append_eq_append_iff.1 h with ⟨r, ha, hr⟩ | ⟨r, ha, hr⟩
  · cases later hr hb
    exact ⟨by rw [ha, List.append_nil], (List.cons.inj hr).2⟩
  · cases later hr hb'
    exact ⟨by rw [ha, List.append_nil], (List.cons.inj hr).2.symm⟩

theorem strrchr_eq_some {c : UInt8} {s pre post : Bytes} :
    strrchr c s = some (pre, post) ↔ s = pre ++ c :: post ∧ c ∉ post := by
  refine ⟨strrchr_split, ?_⟩
  rintro ⟨hs, hpost⟩
  cases hr : strrchr c s with
  | none =>
    refine absurd ?_ (strrchr_eq_none.1 hr)
    rw [hs]
    exact List.mem_append_right _ List.mem_cons_self
  | some r =>
    obtain ⟨hs', hpost'⟩ := strrchr_split hr
    obtain ⟨hpre, hpost⟩ := last_split_unique (hs'.symm.trans hs) hpost' hpost
    rw [← hpre, ← hpost]

theorem scanned_cons {n : Nat} {ns : List Nat} {ts xs : List Bytes} {x : Bytes} (h : scanned (n :: ns) ts = x :: xs) :
    x.length ≤ n ∧ (∀ c ∈ x, ∃ t ∈ ts, c ∈ t) ∧
      ∃ ts', xs = scanned ns ts' ∧ ∀ t' ∈ ts', ∀ c ∈ t', ∃ t ∈ ts, c ∈ t := by
  cases ts with
  | nil => cases h
  | cons t ts =>
    rw [scanned] at h
    obtain ⟨rfl, rfl⟩ := List.cons.inj h
    refine ⟨List.length_take_le _ _, fun c hc => ⟨t, List.mem_cons_self, List.mem_of_mem_take hc⟩, _, rfl, fun t' ht' c hc => ?_⟩
    split at ht'
    · exact ⟨t', List.mem_cons_of_mem _ ht', hc⟩
    · rcases List.mem_cons.1 ht' with rfl | hmem
      · exact ⟨t, List.mem_cons_self, List.mem_of_mem_drop hc⟩
      · exact ⟨t', List.mem_cons_of_mem _ hmem, hc⟩

theorem scanned_fields {n m : Nat} {ns : List Nat} {ts xs : List Bytes} {name host : Bytes}
    (h : scanned (n :: m :: ns) ts = name :: host :: xs) :
    name.length ≤ n ∧ host.length ≤ m ∧ ∀ c, c ∈ name ∨ c ∈ host → ∃ t ∈ ts, c ∈ t := by
  obtain ⟨hn, hname, ts', hrest, hmem⟩ := scanned_cons h
  obtain ⟨hm, hhost, -⟩ := scanned_cons hrest.symm
  refine ⟨hn, hm, fun c hc => ?_⟩
  rcases hc with hc | hc
  · exact hname c hc
  · obtain ⟨t', ht', hct'⟩ := hhost c hc
    exact hmem t' ht' c hct'

/-- **The fields read fit their arrays and are bytes of the words.** -/
theorem splitTokens_fields {ts : List Bytes} {name host : Bytes} {port : Int} (h : splitTokens ts = some (name, host, port)) :
    name.length ≤ 31 ∧ host.length ≤ 127 ∧ ∀ c, c ∈ name ∨ c ∈ host → ∃ t ∈ ts, c ∈ t := by
  unfold splitTokens at h
  split at h
  · rename_i hscan
    cases h
    exact scanned_fields hscan
  · split at h
    · rename_i n' h' hscan
      obtain ⟨hn, hm, hmem⟩ := scanned_fields hscan
      split at h
      · rename_i pre post hr
        cases h
        have hsplit := (strrchr_eq_some.1 hr).1
        refine ⟨hn, ?_, fun c hc => hmem c (hc.imp id (fun hpre => ?_))⟩
        · rw [hsplit, List.length_append] at hm
          omega
        · rw [hsplit]
          exact List.mem_append_left _ hpre
      · cases h
        exact ⟨hn, hm, hmem⟩
    · cases h

theorem readLine_some {line : Bytes} {srv : SlpNxServer} (h : readLine line = some srv) :
    0 < srv.port.toNat ∧
      splitTokens (tokens (seen line)) = some (srv.name.bytes, srv.host.bytes, (srv.port.toNat : Int)) := by
  rw [readLine_eq] at h
  cases hsplit : splitTokens (tokens (seen line)) with
  | none => rw [hsplit] at h; cases h
  | some fields =>
    obtain ⟨name, host, port⟩ := fields
    rw [hsplit] at h
    dsimp only at h
    split at h
    · cases h
    · rename_i hport
      cases h
      obtain ⟨hname, hhost, hmem⟩ := splitTokens_fields hsplit
      have hnul : ∀ c, c ∈ name ∨ c ∈ host → c ≠ 0 := by
        rintro c hc rfl
        obtain ⟨t, ht, h0⟩ := hmem 0 hc
        exact no_nul_of_mem_seen ht h0
      have hport' : (UInt16.ofNat port.toNat).toNat = port.toNat := by
        rw [UInt16.toNat_ofNat']
        omega
      have hint : (port.toNat : Int) = port := by omega
      have hname' : ∀ h0, (strncpy SLPNXCFG_NAME_MAX h0 name).bytes = name :=
        fun h0 => strncpy_bytes h0 (Nat.lt_succ_of_le hname) (fun hc => hnul 0 (.inl hc) rfl)
      have hhost' : ∀ h0, (strncpy SLPNXCFG_HOST_MAX h0 host).bytes = host :=
        fun h0 => strncpy_bytes h0 (Nat.lt_succ_of_le hhost) (fun hc => hnul 0 (.inr hc) rfl)
      refine ⟨by rw [hport']; omega, ?_⟩
      rw [hname', hhost', hport', hint]

/-! ## Whole lines -/

/-- **The first word of a text that goes on** is whole, unless it is the last one. -/
theorem goesOn_cons {t : Bytes} {ts us : List Bytes} (h : GoesOn (t :: ts) us) :
    ∃ u rest, us = (t ++ u) :: rest ∧ (ts ≠ [] → u = []) ∧ GoesOn ts rest := by
  cases h with
  | last _ u ts => exact ⟨u, ts, rfl, fun hne => absurd rfl hne, .nil _⟩
  | cons _ h => exact ⟨[], _, by rw [List.append_nil], fun _ => rfl, h⟩

theorem goesOn_two {w t : Bytes} {ts us : List Bytes} (h : GoesOn (w :: t :: ts) us) :
    ∃ u rest, us = w :: (t ++ u) :: rest ∧ (ts ≠ [] → u = []) ∧ GoesOn ts rest := by
  obtain ⟨u, rest, hus, hu, hrest⟩ := goesOn_cons h
  obtain ⟨u', rest', hus', hu', hrest'⟩ := goesOn_cons hrest
  rw [hu (List.cons_ne_nil _ _), List.append_nil, hus'] at hus
  exact ⟨u', rest', hus, hu', hrest'⟩

theorem takeWhile_prefix_takeWhile {p : UInt8 → Bool} {a b : Bytes} (h : a <+: b) : a.takeWhile p <+: b.takeWhile p := by
  obtain ⟨c, rfl⟩ := h
  rw [List.takeWhile_append]
  split
  · exact (List.takeWhile_prefix p).trans (List.prefix_append _ _)
  · exact List.prefix_rfl

theorem seen_prefix (line : Bytes) : ∃ more, uncommented line = seen line ++ more := by
  have hcut : cstr (line.take (lineCap - 1)) <+: line := (List.takeWhile_prefix _).trans (List.take_prefix _ _)
  obtain ⟨more, hmore⟩ := takeWhile_prefix_takeWhile (p := (· != 35)) hcut
  exact ⟨more, hmore.symm⟩

/-- **A whole line's fields are those that were read.** -/
theorem fieldsOf_of_whole {line : Bytes} {name host : Bytes} {port : Int} (hfits : FitsIn [31, 127, 7] (tokens (seen line)))
    (hnumber : (fieldsOf (seen line)).isSome = true) (hpos : 0 < port) (hmax : port < LONG_MAX)
    (h : splitTokens (tokens (seen line)) = some (name, host, port)) :
    fieldsOf (seen line) = some (name, host, port) := by
  unfold fieldsOf at hnumber ⊢
  rcases splitTokens_cases h with ⟨t, rest, hts, -, -, hport⟩ | ⟨t, hts, -, -, hcolon⟩ | ⟨t, rest, hts, hlong, -⟩ |
    ⟨t, rest, hts, -, hlong, -⟩
  · rw [hts] at hfits hnumber ⊢
    rw [List.take_of_length_le hfits.2.2.1] at hport
    obtain ⟨v, hv⟩ := Option.isSome_iff_exists.1 (by simpa [fieldsOfTokens] using hnumber : (decimalValue t).isSome = true)
    have hsame := (strtol_eq hpos hmax).1 hport.symm
    rw [scanDecimal_of_decimalValue hv] at hsame
    cases hsame
    rw [fieldsOfTokens, hv]
    rfl
  · rw [hts] at hnumber ⊢
    rcases hcolon with ⟨post, hr, hport⟩ | ⟨hr, rfl, rfl⟩
    · simp only [fieldsOfTokens, hr] at hnumber ⊢
      obtain ⟨v, hv⟩ := Option.isSome_iff_exists.1 (by simpa using hnumber : (decimalValue post).isSome = true)
      have hsame := (strtol_eq hpos hmax).1 hport.symm
      rw [scanDecimal_of_decimalValue hv] at hsame
      cases hsame
      rw [hv]
      rfl
    · simp only [fieldsOfTokens, hr]
  · rw [hts] at hfits
    exact absurd hfits.1 (Nat.not_le.2 hlong)
  · rw [hts] at hfits
    exact absurd hfits.2.1 (Nat.not_le.2 hlong)

/-- **What the words of a line say**: a third word is the port, and else what stands behind the second word's last colon, or
the default. -/
theorem fieldsOfTokens_cases {ts : List Bytes} {name host : Bytes} {port : Int}
    (h : fieldsOfTokens ts = some (name, host, port)) :
    (∃ t rest, ts = name :: host :: t :: rest ∧ decimalValue t = some port) ∨
    (∃ post, ts = [name, host ++ 58 :: post] ∧ decimalValue post = some port) ∨
    ts = [name, host] := by
  unfold fieldsOfTokens at h
  split at h
  · rename_i n t p rest
    obtain ⟨v, hv, hfields⟩ := Option.map_eq_some_iff.1 h
    cases hfields
    exact .inl ⟨p, rest, rfl, hv⟩
  · rename_i n t
    split at h
    · rename_i pre post hr
      obtain ⟨v, hv, hfields⟩ := Option.map_eq_some_iff.1 h
      cases hfields
      exact .inr (.inl ⟨post, by rw [(strrchr_eq_some.1 hr).1], hv⟩)
    · cases h
      exact .inr (.inr rfl)
  · cases h

section Read

variable {name host : Bytes} {port : Int} {ts us : List Bytes}

/-- **The name was not cut by its field**: the line's first word is longer than a name that was. -/
theorem length_name_le {t : Bytes} (hgoes : GoesOn (t :: ts) us) (hsaid : fieldsOfTokens us = some (t.take 31, host, port)) :
    t.length ≤ 31 := by
  obtain ⟨u, rest, rfl, -, -⟩ := goesOn_cons hgoes
  have hname : t ++ u = t.take 31 := by
    rcases fieldsOfTokens_cases hsaid with ⟨_, _, h, -⟩ | ⟨_, h, -⟩ | h <;> exact (List.cons.inj h).1
  have hlen := congrArg List.length hname
  rw [List.length_append, List.length_take] at hlen
  omega

/-- **The host was not cut by its field**: the line's second word would go on with a colon, which is no number. -/
theorem length_host_le {t : Bytes} (hgoes : GoesOn (name :: t :: ts) us)
    (hsaid : fieldsOfTokens us = some (name, t.take 127, port)) (hpos : 0 < port)
    (hport : port = strtol ((t.drop 127).take 7)) : t.length ≤ 127 := by
  obtain ⟨u, rest, rfl, -, -⟩ := goesOn_two hgoes
  by_contra hlong
  have hne : t ++ u ≠ t.take 127 := by
    intro he
    have hlen := congrArg List.length he
    rw [List.length_append, List.length_take] at hlen
    omega
  rcases fieldsOfTokens_cases hsaid with ⟨_, _, h, -⟩ | ⟨post, h, -⟩ | h
  · exact hne (List.cons.inj (List.cons.inj h).2).1
  · have hcolon : t.drop 127 ++ u = 58 :: post := by
      have hsplit : t.take 127 ++ (t.drop 127 ++ u) = t.take 127 ++ 58 :: post := by
        rw [← List.append_assoc, List.take_append_drop]
        exact (List.cons.inj (List.cons.inj h).2).1
      exact List.append_cancel_left hsplit
    cases hd : t.drop 127 with
    | nil => exact hlong (List.drop_eq_nil_iff.1 hd)
    | cons c d =>
      rw [hd, List.cons_append] at hcolon
      rw [hd, (List.cons.inj hcolon).1] at hport
      exact absurd hport (by rw [show strtol ((58 :: d).take 7) = 0 from rfl]; omega)
  · exact hne (List.cons.inj (List.cons.inj h).2).1

/-- **A port that is a word was read whole**: a longer number is larger. -/
theorem port_whole {t : Bytes} (hgoes : GoesOn (name :: host :: t :: ts) us)
    (hsaid : fieldsOfTokens us = some (name, host, port)) (hword : IsWord t) (hpos : 0 < port)
    (hscan : scanDecimal (t.take 7) = some port) : t.length ≤ 7 ∧ decimalValue t = some port := by
  obtain ⟨u, rest, rfl, hu, hgoes⟩ := goesOn_two hgoes
  obtain ⟨u', rest', rfl, -, -⟩ := goesOn_cons hgoes
  have hvalue : decimalValue (t ++ u') = some port := by
    rcases fieldsOfTokens_cases hsaid with ⟨t', _, h, hv⟩ | ⟨_, h, -⟩ | h
    · rw [(List.cons.inj (List.cons.inj (List.cons.inj h).2).2).1]
      exact hv
    · exact absurd (List.cons.inj (List.cons.inj h).2).2 (List.cons_ne_nil _ _)
    · exact absurd (List.cons.inj (List.cons.inj h).2).2 (List.cons_ne_nil _ _)
  rw [← List.take_append_drop 7 t, List.append_assoc] at hvalue
  have htake : IsWord (t.take 7) := fun c hc => hword c (List.mem_of_mem_take hc)
  obtain ⟨hrest, hval⟩ := decimalValue_append htake hpos hscan hvalue
  have hseven : t.length ≤ 7 := List.drop_eq_nil_iff.1 (List.append_eq_nil_iff.1 hrest).1
  rw [List.take_of_length_le hseven] at hval
  exact ⟨hseven, hval⟩

/-- **A port behind a colon was read whole**, and no third word follows: the host would have the colon. -/
theorem colonPort_whole {post : Bytes} (hgoes : GoesOn [name, host ++ 58 :: post] us)
    (hsaid : fieldsOfTokens us = some (name, host, port)) (hword : IsWord post) (hpos : 0 < port)
    (hscan : scanDecimal post = some port) : decimalValue post = some port := by
  obtain ⟨u, rest, rfl, -, -⟩ := goesOn_two hgoes
  have hlonger : host ++ 58 :: post ++ u ≠ host := by
    intro he
    have hlen := congrArg List.length he
    rw [List.length_append, List.length_append, List.length_cons] at hlen
    omega
  rcases fieldsOfTokens_cases hsaid with ⟨_, _, h, -⟩ | ⟨post', h, hv⟩ | h
  · exact absurd (List.cons.inj (List.cons.inj h).2).1 hlonger
  · have htail : host ++ (58 :: post ++ u) = host ++ 58 :: post' := by
      rw [← List.append_assoc]
      exact (List.cons.inj (List.cons.inj h).2).1
    rw [← (List.cons.inj (List.append_cancel_left htail)).2] at hv
    exact (decimalValue_append hword hpos hscan hv).2
  · exact absurd (List.cons.inj (List.cons.inj h).2).1 hlonger

end Read

/-- **Fields that a line says in full and that were read from it leave nothing behind**, however the line was split. -/
theorem whole_of_fieldsOf {line : Bytes} {name host : Bytes} {port : Int} (hpos : 0 < port) (hmax : port < LONG_MAX)
    (h : splitTokens (tokens (seen line)) = some (name, host, port))
    (hsaid : fieldsOf (uncommented line) = some (name, host, port)) : Whole line := by
  obtain ⟨more, hmore⟩ := seen_prefix line
  have hgoes := tokens_append (seen line) more
  rw [← hmore] at hgoes
  have hboth : ∀ ts, tokens (seen line) = ts → FitsIn [31, 127, 7] ts → fieldsOfTokens ts = some (name, host, port) →
      Whole line := by
    intro ts hts hfits hfields
    have hseen : fieldsOf (seen line) = some (name, host, port) := by rw [fieldsOf, hts, hfields]
    exact ⟨hts ▸ hfits, by rw [hseen]; rfl, hseen.trans hsaid.symm⟩
  have hword : ∀ t ∈ tokens (seen line), IsWord t := fun t ht => (isWord_of_mem_tokens _ ht).2
  unfold fieldsOf at hsaid
  rcases splitTokens_cases h with ⟨t, rest, hts, h1, h2, hport⟩ | ⟨t, hts, h1, h2, hcolon⟩ | ⟨t, rest, hts, hlong, rfl⟩ |
    ⟨t, rest, hts, h1, hlong, rfl, hport⟩
  · rw [hts] at hgoes hword
    obtain ⟨hseven, hval⟩ := port_whole hgoes hsaid (hword t (by simp)) hpos ((strtol_eq hpos hmax).1 hport.symm)
    exact hboth _ hts ⟨h1, h2, hseven, trivial⟩ (by rw [fieldsOfTokens, hval]; rfl)
  · have hfits : FitsIn [31, 127, 7] [name, t] := ⟨h1, h2, trivial⟩
    rcases hcolon with ⟨post, hr, hport⟩ | ⟨hr, rfl, rfl⟩
    · obtain ⟨ht, -⟩ := strrchr_eq_some.1 hr
      rw [hts, ht] at hgoes hword
      have hpost : IsWord post := fun c hc => hword (host ++ 58 :: post) (by simp) c (by simp [hc])
      have hval := colonPort_whole hgoes hsaid hpost hpos ((strtol_eq hpos hmax).1 hport.symm)
      exact hboth _ hts hfits (by simp only [fieldsOfTokens, hr, hval]; rfl)
    · exact hboth _ hts hfits (by simp only [fieldsOfTokens, hr])
  · rw [hts] at hgoes
    exact absurd (length_name_le hgoes hsaid) (Nat.not_le.2 hlong)
  · rw [hts] at hgoes
    exact absurd (length_host_le hgoes hsaid hpos hport) (Nat.not_le.2 hlong)

/-- **An accepted line says what was read from it exactly when it is whole.** -/
theorem names_iff_whole {line : Bytes} {srv : SlpNxServer} (h : readLine line = some srv) : Names line srv ↔ Whole line := by
  obtain ⟨hpos, hsplit⟩ := readLine_some h
  have hlt := srv.port.toNat_lt
  have hmax : LONG_MAX = 9223372036854775807 := rfl
  constructor
  · exact whole_of_fieldsOf (by omega) (by omega) hsplit
  · intro hwhole
    rw [Names, ← hwhole.same]
    exact fieldsOf_of_whole hwhole.fits hwhole.number (by omega) (by omega) hsplit

/-! ## The entries of a text -/

/-- The lines that give the entries, and the entries. -/
def accepted (text : Bytes) : List (Bytes × SlpNxServer) :=
  ((lines text).filterMap (fun line => (readLine line).map (fun srv => (line, srv)))).take SLPNXCFG_MAX_SERVERS

theorem map_snd_accepted (text : Bytes) : (accepted text).map Prod.snd = (slpnxServersParse text).entries := by
  rw [entries_parse, firstServers, named, accepted, List.map_take, List.map_filterMap]
  congr 2
  funext line
  cases readLine line <;> rfl

theorem mem_accepted {text line : Bytes} {srv : SlpNxServer} (h : (line, srv) ∈ accepted text) :
    line ∈ lines text ∧ readLine line = some srv := by
  obtain ⟨l, hl, hmap⟩ := List.mem_filterMap.1 (List.mem_of_mem_take h)
  obtain ⟨s, hs, he⟩ := Option.map_eq_some_iff.1 hmap
  cases he
  exact ⟨hl, hs⟩

/-- Every entry is what some line of the text says. -/
def EntriesNamed (text : Bytes) : Prop := ∀ srv ∈ (slpnxServersParse text).entries, ∃ line ∈ lines text, Names line srv

/-- **No entry is a mis-split line exactly when every line that gives one is whole**, or another line of the text happens to say
what was read from it.  A line that is accepted says what was read from it if and only if it is whole. -/
theorem entriesNamed_iff (text : Bytes) :
    (∀ line srv, readLine line = some srv → (Names line srv ↔ Whole line)) ∧
    (EntriesNamed text ↔ ∀ line srv, (line, srv) ∈ accepted text →
      Whole line ∨ ∃ other ∈ lines text, other ≠ line ∧ Names other srv) := by
  refine ⟨fun line srv h => names_iff_whole h, fun hnamed line srv hmem => ?_, fun hwhole srv hsrv => ?_⟩
  · have hsrv : srv ∈ (slpnxServersParse text).entries := by
      rw [← map_snd_accepted]
      exact List.mem_map.2 ⟨_, hmem, rfl⟩
    obtain ⟨other, hother, hsaid⟩ := hnamed srv hsrv
    by_cases he : other = line
    · exact .inl ((names_iff_whole (mem_accepted hmem).2).1 (he ▸ hsaid))
    · exact .inr ⟨other, hother, he, hsaid⟩
  · rw [← map_snd_accepted] at hsrv
    obtain ⟨⟨line, srv'⟩, hmem, rfl⟩ := List.mem_map.1 hsrv
    obtain ⟨hline, hread⟩ := mem_accepted hmem
    rcases hwhole line srv' hmem with hw | ⟨other, hother, -, hsaid⟩
    · exact ⟨line, hline, (names_iff_whole hread).2 hw⟩
    · exact ⟨other, hother, hsaid⟩

/-- A name of 33 bytes, and a host without a port. -/
def longName : Bytes := List.replicate 33 97 ++ [32, 49, 50]

/-- **The last two bytes of the name are taken for the host, and the host for the port.** -/
theorem not_entriesNamed_longName : ¬ EntriesNamed longName ∧
    (slpnxServersParse longName).entries.map (fun srv => (srv.name.bytes, srv.host.bytes, srv.port)) =
      [(List.replicate 31 97, [97, 97], 12)] := by
  refine ⟨fun h => ?_, by decide +kernel⟩
  obtain ⟨srv, hsrv⟩ : ∃ srv, (slpnxServersParse longName).entries = [srv] := by
    refine ⟨⟨⟨List.replicate 31 97, by decide, by decide⟩, ⟨[97, 97], by decide, by decide⟩, 12⟩, by decide +kernel⟩
  obtain ⟨line, hline, hsaid⟩ := h srv (by rw [hsrv]; exact List.mem_cons_self)
  have hlines : lines longName = [longName] := by decide +kernel
  rw [hlines, List.mem_singleton] at hline
  subst hline
  have hfields : fieldsOf (uncommented longName) = some (List.replicate 33 97, [49, 50], defaultPort) := by decide +kernel
  rw [Names, hfields] at hsaid
  have hname := (Prod.mk.inj (Option.some.inj hsaid)).1
  have hlen := congrArg List.length hname
  have hfits := srv.name.fits
  rw [← hlen, List.length_replicate] at hfits
  exact absurd hfits (by decide)

end Servers
end Slp
