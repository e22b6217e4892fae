/-
# CatalogReplica.Proofs.Json.Strings -- a text and the strings that spell it

The octets of a text are read as that text and as no other, so a reader of octets is a
reader of texts. Inside a string the octets of a text stand for themselves or are named by
escapes; reading a string finds a text exactly where a string that spells it stands.
-/
import CatalogReplica.Proofs.Json.Grammar

namespace CatalogReplica

namespace Octets

/-! ## A text has its octets only -/

theorem toNat_of_continuation {b : UInt8} (h : isContinuation b = true) :
    ∃ k, b.toNat = 0x80 + k ∧ k < 64 := by
  simp only [isContinuation, Bool.and_eq_true, decide_eq_true_eq, UInt8.le_iff_toNat_le,
    UInt8.lt_iff_toNat_lt] at h
  have hlow : 128 ≤ b.toNat := h.1
  have hhigh : b.toNat < 192 := h.2
  exact ⟨b.toNat - 128, by omega, by omega⟩

theorem ofNat_of_toNat {b : UInt8} {n : Nat} (h : n = b.toNat) : UInt8.ofNat n = b := by
  rw [h, UInt8.ofNat_toNat]

theorem toNat_char_ofNat {n : Nat} (h : n < 0xD800 ∨ 0xDFFF < n ∧ n < 0x110000) :
    (Char.ofNat n).toNat = n := by
  rw [Char.ofNat, dif_pos h]
  rfl

theorem ofChar_one {a : UInt8} (ha : a.toNat < 0x80) : ofChar (Char.ofNat a.toNat) = [a] := by
  simp only [ofChar, toNat_char_ofNat (.inl (show a.toNat < 0xD800 by omega)), ha, if_true,
    ofNat_of_toNat rfl]

theorem ofChar_two {a b : UInt8} {m k : Nat} (ha : a.toNat = 0xC0 + m) (hb : b.toNat = 0x80 + k)
    (hm : 2 ≤ m) (hm' : m < 32) (hk : k < 64) : ofChar (Char.ofNat (m * 64 + k)) = [a, b] := by
  have hvalid := toNat_char_ofNat (.inl (show m * 64 + k < 0xD800 by omega))
  simp only [ofChar, hvalid]
  rw [if_neg (by omega), if_pos (by omega), ofNat_of_toNat (b := a) (by omega),
    ofNat_of_toNat (b := b) (by omega)]

theorem ofChar_three {a b c : UInt8} {m k l : Nat} (ha : a.toNat = 0xE0 + m)
    (hb : b.toNat = 0x80 + k) (hc : c.toNat = 0x80 + l) (hm : m < 16) (hk : k < 64) (hl : l < 64)
    (low : 0x800 ≤ m * 4096 + k * 64 + l)
    (gap : m * 4096 + k * 64 + l < 0xD800 ∨ 0xE000 ≤ m * 4096 + k * 64 + l) :
    ofChar (Char.ofNat (m * 4096 + k * 64 + l)) = [a, b, c] := by
  have hvalid : (Char.ofNat (m * 4096 + k * 64 + l)).toNat = m * 4096 + k * 64 + l :=
    toNat_char_ofNat (by omega)
  simp only [ofChar, hvalid]
  rw [if_neg (by omega), if_neg (by omega), if_pos (by omega), ofNat_of_toNat (b := a) (by omega),
    ofNat_of_toNat (b := b) (by omega), ofNat_of_toNat (b := c) (by omega)]

theorem ofChar_four {a b c d : UInt8} {m j k l : Nat} (ha : a.toNat = 0xF0 + m)
    (hb : b.toNat = 0x80 + j) (hc : c.toNat = 0x80 + k) (hd : d.toNat = 0x80 + l)
    (hj : j < 64) (hk : k < 64) (hl : l < 64)
    (low : 0x10000 ≤ m * 262144 + j * 4096 + k * 64 + l)
    (high : m * 262144 + j * 4096 + k * 64 + l < 0x110000) :
    ofChar (Char.ofNat (m * 262144 + j * 4096 + k * 64 + l)) = [a, b, c, d] := by
  have hvalid : (Char.ofNat (m * 262144 + j * 4096 + k * 64 + l)).toNat =
      m * 262144 + j * 4096 + k * 64 + l := toNat_char_ofNat (by omega)
  simp only [ofChar, hvalid]
  rw [if_neg (by omega), if_neg (by omega), if_neg (by omega), ofNat_of_toNat (b := a) (by omega),
    ofNat_of_toNat (b := b) (by omega), ofNat_of_toNat (b := c) (by omega),
    ofNat_of_toNat (b := d) (by omega)]

/-- One character that is read was written in the octets it is read from. -/
theorem ofChars_of_map {n : Nat} {s : Octets} {bs : Octets} {cs : List Char}
    (h : (chars? s).map (Char.ofNat n :: ·) = some cs) (hn : ofChar (Char.ofNat n) = bs)
    (ih : ∀ {cs}, chars? s = some cs → ofChars cs = s) : ofChars cs = bs ++ s := by
  obtain ⟨ds, hds, rfl⟩ := Option.map_eq_some_iff.mp h
  rw [ofChars_cons, hn, ih hds]

/-- The characters that are read from octets are written in these octets. -/
theorem ofChars_of_chars? {s : Octets} {cs : List Char} (h : chars? s = some cs) :
    ofChars cs = s := by
  fun_induction chars? s generalizing cs with
  | case1 =>
    obtain rfl := Option.some.inj h
    rfl
  | case2 a rest ha ih =>
    have hlow : a.toNat < 128 := UInt8.lt_iff_toNat_lt.mp ha
    exact ofChars_of_map h (ofChar_one hlow) ih
  | case4 a h₁ h₂ h₃ b rest hb ih =>
    obtain ⟨k, hk, hk'⟩ := toNat_of_continuation hb
    simp only [UInt8.lt_iff_toNat_lt, UInt8.toNat_ofNat] at h₁ h₂ h₃
    have ha : a.toNat = 0xC0 + (a.toNat - 0xC0) := by omega
    rw [payload_of_toNat hk] at h
    exact ofChars_of_map h (ofChar_two ha hk (by omega) (by omega) hk') ih
  | case7 a _ h₁ h₂ h₃ b c rest n hn =>
    rename_i ih
    simp only [Bool.and_eq_true, Bool.not_eq_true', Bool.and_eq_false_iff, decide_eq_true_eq,
      decide_eq_false_iff_not] at hn
    obtain ⟨⟨⟨hb, hc⟩, hlow⟩, hgap⟩ := hn
    obtain ⟨k, hk, hk'⟩ := toNat_of_continuation hb
    obtain ⟨l, hl, hl'⟩ := toNat_of_continuation hc
    simp only [UInt8.lt_iff_toNat_lt, UInt8.toNat_ofNat] at h₁ h₂ h₃
    have ha : a.toNat = 0xE0 + (a.toNat - 0xE0) := by omega
    simp only [n, payload_of_toNat hk, payload_of_toNat hl] at h hlow hgap
    exact ofChars_of_map h (ofChar_three ha hk hl (by omega) hk' hl' hlow (by omega)) ih
  | case10 a _ h₁ h₂ h₃ h₄ b c d rest n hn =>
    rename_i ih
    simp only [Bool.and_eq_true, decide_eq_true_eq] at hn
    obtain ⟨⟨⟨⟨hb, hc⟩, hd⟩, hlow⟩, hhigh⟩ := hn
    obtain ⟨j, hj, hj'⟩ := toNat_of_continuation hb
    obtain ⟨k, hk, hk'⟩ := toNat_of_continuation hc
    obtain ⟨l, hl, hl'⟩ := toNat_of_continuation hd
    simp only [UInt8.lt_iff_toNat_lt, UInt8.toNat_ofNat] at h₁ h₂ h₃ h₄
    have ha : a.toNat = 0xF0 + (a.toNat - 0xF0) := by omega
    simp only [n, payload_of_toNat hj, payload_of_toNat hk, payload_of_toNat hl] at h hlow hhigh
    exact ofChars_of_map h (ofChar_four ha hj hk hl hj' hk' hl' hlow hhigh) ih
  | case3 | case5 | case6 | case8 | case9 | case11 | case12 | case13 => cases h

/-- Octets are read as a text exactly when they are the octets of that text. -/
theorem text?_eq_some {s : Octets} {text : String} : text? s = some text ↔ s = ofString text := by
  constructor
  · intro h
    obtain ⟨cs, hcs, rfl⟩ := Option.map_eq_some_iff.mp h
    rw [ofString, String.toList_ofList, ofChars_of_chars? hcs]
  · rintro rfl
    exact text?_ofString text

end Octets

namespace Json

/-! ## Escapes -/

theorem simpleEscape?_of_mem {l c : Char} (h : (l, c) ∈ shortEscapes) :
    simpleEscape? (Octets.ascii l) = some (Octets.ascii c) ∧ Octets.ofChar c = [Octets.ascii c] ∧
      isShortEscape (Octets.ascii l) = true := by
  have hall : ∀ p ∈ shortEscapes, simpleEscape? (Octets.ascii p.1) = some (Octets.ascii p.2) ∧
      Octets.ofChar p.2 = [Octets.ascii p.2] ∧ isShortEscape (Octets.ascii p.1) = true := by
    decide
  exact hall (l, c) h

theorem exists_mem_of_simpleEscape? {e b : UInt8} (h : simpleEscape? e = some b) :
    ∃ l c, (l, c) ∈ shortEscapes ∧ e = Octets.ascii l ∧ Octets.ofChar c = [b] := by
  simp only [simpleEscape?, Bool.or_eq_true, beq_iff_eq] at h
  split_ifs at h with h₁ h₂ h₃ h₄ h₅ h₆ <;> obtain rfl := Option.some.inj h
  · rcases h₁ with (rfl | rfl) | rfl
    · exact ⟨'"', '"', by decide, rfl, rfl⟩
    · exact ⟨'\\', '\\', by decide, rfl, rfl⟩
    · exact ⟨'/', '/', by decide, rfl, rfl⟩
  · exact ⟨'b', '\x08', by decide, h₂, rfl⟩
  · exact ⟨'f', '\x0c', by decide, h₃, rfl⟩
  · exact ⟨'n', '\n', by decide, h₄, rfl⟩
  · exact ⟨'r', '\r', by decide, h₅, rfl⟩
  · exact ⟨'t', '\t', by decide, h₆, rfl⟩

theorem isHexDigit_of_hexWord? {a b c d : UInt8} {n : Nat} (h : hexWord? a b c d = some n) :
    isHexDigit a = true ∧ isHexDigit b = true ∧ isHexDigit c = true ∧ isHexDigit d = true := by
  simp only [hexWord?, Option.bind_eq_bind, Option.bind_eq_some_iff] at h
  obtain ⟨a', ha, b', hb, c', hc, d', hd, -⟩ := h
  simp only [isHexDigit, ha, hb, hc, hd, Option.isSome_some, and_self]

theorem hexValue?_lt {b : UInt8} {n : Nat} (h : hexValue? b = some n) : n < 16 := by
  simp only [hexValue?] at h
  split_ifs at h <;> obtain rfl := Option.some.inj h <;>
    simp_all <;> omega

theorem hexWord?_lt {a b c d : UInt8} {n : Nat} (h : hexWord? a b c d = some n) : n < 0x10000 := by
  simp only [hexWord?, Option.bind_eq_bind, Option.bind_eq_some_iff] at h
  obtain ⟨a', ha, b', hb, c', hc, d', hd, hn⟩ := h
  have := hexValue?_lt ha
  have := hexValue?_lt hb
  have := hexValue?_lt hc
  have := hexValue?_lt hd
  have := Option.some.inj hn
  omega

/-- The pair of escapes of a character above U+FFFF. -/
theorem stringOctets_pair {h₁ h₂ h₃ h₄ l₁ l₂ l₃ l₄ : UInt8} {n m : Nat}
    (hn : hexWord? h₁ h₂ h₃ h₄ = some n) (hm : hexWord? l₁ l₂ l₃ l₄ = some m)
    (high : isHighSurrogate n = true) (low : isLowSurrogate m = true) (s : Octets) :
    stringOctets (backslash :: 0x75 :: h₁ :: h₂ :: h₃ :: h₄ ::
      backslash :: 0x75 :: l₁ :: l₂ :: l₃ :: l₄ :: s) =
        push (Octets.ofChar (pairedChar n m)) (stringOctets s) := by
  have notLow : isLowSurrogate n = false := by
    simp only [isHighSurrogate, Bool.and_eq_true, decide_eq_true_eq] at high
    simp only [isLowSurrogate, Bool.and_eq_false_iff, decide_eq_false_iff_not]
    omega
  rw [stringOctets.eq_def]
  simp [hn, hm, high, low, notLow, show (backslash == quote) = false from rfl]

/-! ## Strings and what they spell -/

/-- What spells octets can stand inside a string. -/
theorem Spells.isQuotable {bytes t : Octets} (h : Spells bytes t) : IsQuotable t := by
  induction h with
  | nil => exact .nil
  | plain h _ ih => exact .plain h ih
  | short h _ ih => exact .short (simpleEscape?_of_mem h).2.2 ih
  | hex h _ ih =>
    obtain ⟨ha, hb, hc, hd⟩ := isHexDigit_of_hexWord? h
    exact .hex ha hb hc hd ih
  | pair hh hl _ _ _ _ ih =>
    obtain ⟨ha, hb, hc, hd⟩ := isHexDigit_of_hexWord? hh
    obtain ⟨ha', hb', hc', hd'⟩ := isHexDigit_of_hexWord? hl
    exact .hex ha hb hc hd (.hex ha' hb' hc' hd' ih)

/-- Octets that need no escape spell themselves. -/
theorem spells_self {bytes : Octets} (h : ∀ b ∈ bytes, isPlain b = true) : Spells bytes bytes := by
  induction bytes with
  | nil => exact .nil
  | cons b bytes ih =>
    exact .plain (h b List.mem_cons_self) (ih fun c hc => h c (List.mem_cons_of_mem b hc))

/-- A text that needs no escape stands between quotes. -/
theorem spellsText_self {text : String} (h : (Octets.ofString text).all isPlain = true) :
    SpellsText text (quote :: (Octets.ofString text ++ [quote])) :=
  ⟨_, spells_self (List.all_eq_true.mp h), rfl⟩

theorem SpellsText.isString {text : String} {s : Octets} (h : SpellsText text s) : IsString s := by
  obtain ⟨t, ht, rfl⟩ := h
  exact ⟨t, ht.isQuotable, rfl⟩

/-- Octets are read from whatever spells them, up to the closing quote. -/
theorem stringOctets_spelled {bytes t : Octets} (h : Spells bytes t) (rest : Octets) :
    stringOctets (t ++ quote :: rest) = .ok (bytes, rest) := by
  induction h with
  | nil => exact stringOctets_quote rest
  | plain h _ ih =>
    rw [List.cons_append, stringOctets_plain h, ih]
    rfl
  | short h _ ih =>
    obtain ⟨hescape, hone, -⟩ := simpleEscape?_of_mem h
    rw [List.cons_append, List.cons_append, stringOctets_simple hescape, ih, hone]
    rfl
  | @hex h₁ h₂ h₃ h₄ c s t h _ ih =>
    have hvalid : c.toNat < 0xD800 ∨ 0xDFFF < c.toNat ∧ c.toNat < 0x110000 := c.valid
    have hlow : isLowSurrogate c.toNat = false := by
      simp only [isLowSurrogate, Bool.and_eq_false_iff, decide_eq_false_iff_not]
      omega
    have hhigh : isHighSurrogate c.toNat = false := by
      simp only [isHighSurrogate, Bool.and_eq_false_iff, decide_eq_false_iff_not]
      omega
    simp only [List.cons_append]
    rw [stringOctets_hex h hlow hhigh, ih, Char.ofNat_toNat]
    rfl
  | @pair h₁ h₂ h₃ h₄ l₁ l₂ l₃ l₄ high low c s t hh hl high_lt low_lt hc _ ih =>
    have hhigh : isHighSurrogate (0xD800 + high) = true := by
      simp only [isHighSurrogate, Bool.and_eq_true, decide_eq_true_eq]
      omega
    have hlow : isLowSurrogate (0xDC00 + low) = true := by
      simp only [isLowSurrogate, Bool.and_eq_true, decide_eq_true_eq]
      omega
    have hpaired : pairedChar (0xD800 + high) (0xDC00 + low) = c := by
      rw [pairedChar, Nat.add_sub_cancel_left, Nat.add_sub_cancel_left, ← hc, Char.ofNat_toNat]
    simp only [List.cons_append]
    rw [stringOctets_pair hh hl hhigh hlow, ih, hpaired]
    rfl

/-- What is read behind octets that were taken off the front. -/
theorem exists_of_push {bytes found rest : Octets} {r : Except Fault (Octets × Octets)}
    (h : push bytes r = .ok (found, rest)) :
    ∃ more, r = .ok (more, rest) ∧ found = bytes ++ more := by
  cases r with
  | error f => cases h
  | ok p =>
    obtain ⟨rfl, rfl⟩ := Prod.mk.inj (Except.ok.inj h)
    exact ⟨p.1, rfl, rfl⟩

/-- A hexadecimal escape outside the surrogates spells its character. -/
theorem Spells.of_hex {h₁ h₂ h₃ h₄ : UInt8} {n : Nat} {bytes t : Octets}
    (h : hexWord? h₁ h₂ h₃ h₄ = some n) (hlow : ¬ isLowSurrogate n = true)
    (hhigh : ¬ isHighSurrogate n = true) (more : Spells bytes t) :
    Spells (Octets.ofChar (Char.ofNat n) ++ bytes)
      (backslash :: 0x75 :: h₁ :: h₂ :: h₃ :: h₄ :: t) := by
  have hlt := hexWord?_lt h
  simp only [isLowSurrogate, Bool.and_eq_true, decide_eq_true_eq] at hlow
  simp only [isHighSurrogate, Bool.and_eq_true, decide_eq_true_eq] at hhigh
  have hvalid := Octets.toNat_char_ofNat (n := n) (by omega)
  exact .hex (by rw [hvalid, h]) more

/-- Two hexadecimal escapes of a surrogate pair spell its character. -/
theorem Spells.of_pair {h₁ h₂ h₃ h₄ l₁ l₂ l₃ l₄ : UInt8} {n m : Nat} {bytes t : Octets}
    (hn : hexWord? h₁ h₂ h₃ h₄ = some n) (hm : hexWord? l₁ l₂ l₃ l₄ = some m)
    (high : isHighSurrogate n = true) (low : isLowSurrogate m = true) (more : Spells bytes t) :
    Spells (Octets.ofChar (pairedChar n m) ++ bytes)
      (backslash :: 0x75 :: h₁ :: h₂ :: h₃ :: h₄ ::
        backslash :: 0x75 :: l₁ :: l₂ :: l₃ :: l₄ :: t) := by
  simp only [isHighSurrogate, Bool.and_eq_true, decide_eq_true_eq] at high
  simp only [isLowSurrogate, Bool.and_eq_true, decide_eq_true_eq] at low
  obtain ⟨a, rfl⟩ := Nat.exists_eq_add_of_le high.1
  obtain ⟨b, rfl⟩ := Nat.exists_eq_add_of_le low.1
  refine .pair hn hm (by omega) (by omega) ?_ more
  have hvalid := Octets.toNat_char_ofNat (n := 0x10000 + a * 0x400 + b) (by omega)
  rw [pairedChar, Nat.add_sub_cancel_left, Nat.add_sub_cancel_left, hvalid]

/-- Octets are read from what spells them only. -/
theorem exists_spelled {s bytes rest : Octets} (h : stringOctets s = .ok (bytes, rest)) :
    ∃ t, Spells bytes t ∧ s = t ++ quote :: rest := by
  fun_induction stringOctets s generalizing bytes with
  | case2 b s hquote =>
    obtain ⟨rfl, rfl⟩ := Prod.mk.inj (Except.ok.inj h)
    exact ⟨[], .nil, by rw [beq_iff_eq.mp hquote, List.nil_append]⟩
  | case11 b _ hb u hu h₁ h₂ h₃ h₄ n hn _ high b' hb' u' hu' l₁ l₂ l₃ l₄ s m hm low ih =>
    obtain ⟨more, hread, hbytes⟩ := exists_of_push h
    obtain ⟨t, ht, rfl⟩ := ih hread
    have hspells := Spells.of_pair hn hm high low ht
    rw [← hbytes] at hspells
    refine ⟨_, hspells, ?_⟩
    rw [bne_iff_ne, not_not] at hb' hu'
    rw [beq_iff_eq.mp hb, beq_iff_eq.mp hu, hb', hu']
    rfl
  | case14 b _ hb u hu h₁ h₂ h₃ h₄ s n hn hlow hhigh ih =>
    obtain ⟨more, hread, rfl⟩ := exists_of_push h
    obtain ⟨t, ht, rfl⟩ := ih hread
    refine ⟨_, .of_hex hn hlow hhigh ht, ?_⟩
    rw [beq_iff_eq.mp hb, beq_iff_eq.mp hu]
    rfl
  | case16 b _ hb e s _ c hc ih =>
    obtain ⟨more, hread, rfl⟩ := exists_of_push h
    obtain ⟨t, ht, rfl⟩ := ih hread
    obtain ⟨l, c', hmem, rfl, hone⟩ := exists_mem_of_simpleEscape? hc
    have hspells := Spells.short hmem ht
    rw [hone] at hspells
    refine ⟨_, hspells, ?_⟩
    rw [beq_iff_eq.mp hb]
    rfl
  | case19 b s hquote hbackslash hcontrol ih =>
    obtain ⟨more, hread, rfl⟩ := exists_of_push h
    obtain ⟨t, ht, rfl⟩ := ih hread
    rw [beq_iff_eq] at hquote hbackslash
    exact ⟨_, .plain (by simp [isPlain, hquote, hbackslash, hcontrol]) ht, rfl⟩
  | case1 | case3 | case4 | case5 | case6 | case7 | case8 | case9 | case10 | case12 | case13
  | case15 | case17 | case18 => cases h

/-- A string is read as a text exactly when it spells the text. -/
theorem stringBody_eq_ok {s rest : Octets} {text : String} :
    stringBody s = .ok (text, rest) ↔
      ∃ t, Spells (Octets.ofString text) t ∧ s = t ++ quote :: rest := by
  constructor
  · intro h
    unfold stringBody at h
    cases hread : stringOctets s with
    | error f =>
      rw [hread] at h
      cases h
    | ok p =>
      obtain ⟨bytes, rest'⟩ := p
      rw [hread] at h
      cases htext : Octets.text? bytes with
      | none => simp [bind, Except.bind, htext] at h
      | some text' =>
        simp only [bind, Except.bind, htext, Except.ok.injEq, Prod.mk.injEq] at h
        obtain ⟨rfl, rfl⟩ := h
        rw [← Octets.text?_eq_some.mp htext]
        exact exists_spelled hread
  · rintro ⟨t, ht, rfl⟩
    unfold stringBody
    rw [stringOctets_spelled ht]
    simp only [bind, Except.bind, Octets.text?_ofString]

theorem stringBody_spelled {text : String} {t : Octets} (h : Spells (Octets.ofString text) t)
    (rest : Octets) : stringBody (t ++ quote :: rest) = .ok (text, rest) :=
  stringBody_eq_ok.mpr ⟨t, h, rfl⟩

end Json
end CatalogReplica
