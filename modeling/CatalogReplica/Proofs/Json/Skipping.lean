/-
# CatalogReplica.Proofs.Json.Skipping -- a value is passed over as a whole

Passing over a value is the work of a machine that looks at one octet after another and
keeps the open brackets on a stack. Here it is held to the grammar, in both directions:

* a value of the grammar is passed over, whatever is open and whatever follows, as long as
  what follows does not go on with a number (`skipFrom_grammar`);
* what is passed over is white space and one value of the grammar (`exists_value_of_skip`).

Both say where the machine stands afterwards: behind a value it is always as if it had just
come to a delimiter, and with no bracket open it stops there.
-/
import CatalogReplica.Proofs.Json.Numbers

namespace CatalogReplica.Json

/-! ## The end of a value -/

/-- With no bracket open there is nothing to come. -/
theorem skipFrom_delimiter_nil (s : Octets) : skipFrom .delimiter [] s = .ok s := by
  cases s <;> rfl

/-- Behind a value the machine is as if it had just come to a delimiter. -/
theorem skipFrom_of_valueEnd {scan : Scan} {stack : List Bracket} (outer : List Bracket)
    {b : UInt8} (h : scanStep scan stack b = .ok (valueEnd outer)) (s : Octets) :
    skipFrom scan stack (b :: s) = skipFrom .delimiter outer s := by
  rw [skipFrom, h]
  cases outer with
  | nil => exact (skipFrom_delimiter_nil s).symm
  | cons bracket outer => rfl

theorem skipFrom_of_more {scan : Scan} (scan' : Scan) {stack : List Bracket}
    (stack' : List Bracket) {b : UInt8} (h : scanStep scan stack b = .ok (.more scan' stack'))
    (s : Octets) :
    skipFrom scan stack (b :: s) = skipFrom scan' stack' s := by
  rw [skipFrom, h]

/-! ## Words -/

theorem skipFrom_word {w : Octets} (hw : w ≠ []) (stack : List Bracket) (s : Octets) :
    skipFrom (.word w) stack (w ++ s) = skipFrom .delimiter stack s := by
  induction w with
  | nil => exact absurd rfl hw
  | cons b w ih =>
    cases w with
    | nil => exact skipFrom_of_valueEnd _ (by simp [scanStep]) s
    | cons c w =>
      rw [List.cons_append, skipFrom_of_more (.word (c :: w)) stack
        (by simp [scanStep])]
      exact ih (List.cons_ne_nil c w)

theorem exists_of_skip_word {w : Octets} (hw : w ≠ []) {stack : List Bracket} {s rest : Octets}
    (h : skipFrom (.word w) stack s = .ok rest) :
    ∃ s', s = w ++ s' ∧ skipFrom .delimiter stack s' = .ok rest := by
  induction w generalizing s with
  | nil => exact absurd rfl hw
  | cons b w ih =>
    cases s with
    | nil => cases h
    | cons c s =>
      by_cases hb : b = c
      · subst hb
        cases w with
        | nil =>
          rw [skipFrom_of_valueEnd stack (by simp [scanStep])] at h
          exact ⟨s, rfl, h⟩
        | cons d w =>
          rw [skipFrom_of_more (.word (d :: w)) stack (by simp [scanStep])]
            at h
          obtain ⟨s', rfl, hafter⟩ := ih (List.cons_ne_nil d w) h
          exact ⟨s', rfl, hafter⟩
      · simp [skipFrom, scanStep, hb] at h

/-! ## Strings -/

/-- What is due behind a string. -/
abbrev afterText (isKey : Bool) : Scan := if isKey then .colon else .delimiter

theorem skipFrom_quote (isKey : Bool) (stack : List Bracket) (s : Octets) :
    skipFrom (.text isKey) stack (quote :: s) = skipFrom (afterText isKey) stack s := by
  cases isKey with
  | true => exact skipFrom_of_more _ _ rfl s
  | false => exact skipFrom_of_valueEnd _ rfl s

theorem skipFrom_plain {b : UInt8} (h : isPlain b = true) (isKey : Bool) (stack : List Bracket)
    (s : Octets) : skipFrom (.text isKey) stack (b :: s) = skipFrom (.text isKey) stack s := by
  simp only [isPlain, Bool.and_eq_true, bne_iff_ne, Bool.not_eq_true', decide_eq_false_iff_not] at h
  exact skipFrom_of_more _ _ (by simp [scanStep, h.1.1, h.1.2, h.2]) s

theorem skipFrom_short {e : UInt8} (h : isShortEscape e = true) (isKey : Bool)
    (stack : List Bracket) (s : Octets) :
    skipFrom (.text isKey) stack (backslash :: e :: s) = skipFrom (.text isKey) stack s := by
  have hhex : e ≠ 0x75 := by
    rintro rfl
    cases h
  rw [skipFrom_of_more (.escape isKey) stack rfl]
  exact skipFrom_of_more _ _ (by simp [scanStep, hhex, h]) s

theorem skipFrom_hex (a b c d : UInt8) (isKey : Bool) (stack : List Bracket) (s : Octets) :
    skipFrom (.text isKey) stack (backslash :: 0x75 :: a :: b :: c :: d :: s) =
      if isHexDigit a && isHexDigit b && isHexDigit c && isHexDigit d then
        skipFrom (.text isKey) stack s
      else .error .invalidEscape := by
  rw [skipFrom_of_more (.escape isKey) stack rfl,
    skipFrom_of_more (.hex isKey []) stack rfl,
    skipFrom_of_more (.hex isKey [a]) stack rfl,
    skipFrom_of_more (.hex isKey [a, b]) stack rfl,
    skipFrom_of_more (.hex isKey [a, b, c]) stack rfl, skipFrom]
  simp only [scanStep, List.cons_append, List.nil_append, List.length_cons, List.length_nil,
    Nat.reduceAdd, Nat.lt_irrefl, if_false, List.all_cons, List.all_nil, Bool.and_true, isHexDigit,
    Bool.and_assoc]
  split_ifs <;> rfl

/-- The inside of a string is passed over. -/
theorem skipFrom_quotable {t : Octets} (h : IsQuotable t) (isKey : Bool) (stack : List Bracket)
    (s : Octets) :
    skipFrom (.text isKey) stack (t ++ quote :: s) = skipFrom (afterText isKey) stack s := by
  induction h with
  | nil => exact skipFrom_quote isKey stack s
  | plain h _ ih => rw [List.cons_append, skipFrom_plain h, ih]
  | short h _ ih => rw [List.cons_append, List.cons_append, skipFrom_short h, ih]
  | hex ha hb hc hd _ ih =>
    simp only [List.cons_append]
    rw [skipFrom_hex, ha, hb, hc, hd, ih]
    rfl

/-- What is passed over of a string is its inside and the closing quote. -/
theorem exists_quotable_of_skip {isKey : Bool} {stack : List Bracket} {rest : Octets} :
    ∀ {s : Octets}, skipFrom (.text isKey) stack s = .ok rest →
      ∃ t s', IsQuotable t ∧ s = t ++ quote :: s' ∧
        skipFrom (afterText isKey) stack s' = .ok rest
  | [], h => by cases h
  | b :: s, h => by
    by_cases hquote : b = quote
    · subst hquote
      rw [skipFrom_quote] at h
      exact ⟨[], s, .nil, rfl, h⟩
    by_cases hbackslash : b = backslash
    · subst hbackslash
      match s, h with
      | [], h => cases h
      | e :: s, h =>
        by_cases hhex : e = 0x75
        · subst hhex
          match s, h with
          | [], h | [_], h | [_, _], h | [_, _, _], h => cases h
          | a :: b :: c :: d :: s, h =>
            rw [skipFrom_hex] at h
            split at h
            · rename_i hdigits
              simp only [Bool.and_eq_true] at hdigits
              obtain ⟨t, s', ht, rfl, hafter⟩ := exists_quotable_of_skip h
              obtain ⟨⟨⟨ha, hb⟩, hc⟩, hd⟩ := hdigits
              exact ⟨_, s', .hex ha hb hc hd ht, rfl, hafter⟩
            · cases h
        · by_cases hshort : isShortEscape e = true
          · rw [skipFrom_short hshort] at h
            obtain ⟨t, s', ht, rfl, hafter⟩ := exists_quotable_of_skip h
            exact ⟨_, s', .short hshort ht, rfl, hafter⟩
          · rw [skipFrom_of_more (.escape isKey) stack rfl] at h
            simp [skipFrom, scanStep, hhex, hshort] at h
    · by_cases hcontrol : b < 0x20
      · simp [skipFrom, scanStep, hquote, hbackslash, hcontrol] at h
      · have hplain : isPlain b = true := by simp [isPlain, hquote, hbackslash, hcontrol]
        rw [skipFrom_plain hplain] at h
        obtain ⟨t, s', ht, rfl, hafter⟩ := exists_quotable_of_skip h
        exact ⟨_, s', .plain hplain ht, rfl, hafter⟩

/-! ## White space -/

/-- Where white space may stand, it is passed over. -/
theorem skipFrom_blank {scan : Scan} {stack : List Bracket}
    (h : ∀ b, isSpace b = true → scanStep scan stack b = .ok (.more scan stack)) {w : Octets}
    (hw : IsBlank w) (s : Octets) : skipFrom scan stack (w ++ s) = skipFrom scan stack s := by
  induction w with
  | nil => rfl
  | cons b w ih =>
    rw [List.cons_append, skipFrom_of_more _ _ (h b (hw b List.mem_cons_self))]
    exact ih hw.tail

theorem scanStep_value_blank (stack : List Bracket) (b : UInt8) (hb : isSpace b = true) :
    scanStep .value stack b = .ok (.more .value stack) := by
  simp [scanStep, valueStep, hb]

theorem scanStep_listStart_blank (stack : List Bracket) (b : UInt8) (hb : isSpace b = true) :
    scanStep .listStart stack b = .ok (.more .listStart stack) := by
  simp [scanStep, hb]

/-- A sign is not white space. -/
theorem ne_of_isSpace {b c : UInt8} (hb : isSpace b = true) (hc : isSpace c = false) : b ≠ c := by
  rintro rfl
  exact Bool.false_ne_true (hc.symm.trans hb)

theorem scanStep_objectStart_blank (stack : List Bracket) (b : UInt8) (hb : isSpace b = true) :
    scanStep .objectStart stack b = .ok (.more .objectStart stack) := by
  simp [scanStep, keyStep, hb, ne_of_isSpace hb (show isSpace closeObject = false from rfl)]

theorem scanStep_key_blank (stack : List Bracket) (b : UInt8) (hb : isSpace b = true) :
    scanStep .key stack b = .ok (.more .key stack) := by
  simp [scanStep, keyStep, hb]

theorem scanStep_colon_blank (stack : List Bracket) (b : UInt8) (hb : isSpace b = true) :
    scanStep .colon stack b = .ok (.more .colon stack) := by
  simp [scanStep, hb]

theorem scanStep_delimiter_blank (bracket : Bracket) (outer : List Bracket) (b : UInt8)
    (hb : isSpace b = true) :
    scanStep .delimiter (bracket :: outer) b = .ok (.more .delimiter (bracket :: outer)) := by
  cases bracket <;> simp [scanStep, delimiterStep, hb]

/-! ## Values are passed over -/

theorem isSpace_of_digit {b : UInt8} (hb : isDigitOctet b = true) : isSpace b = false := by
  simp [isSpace, digit_ne hb (c := 0x20) rfl, digit_ne hb (c := 0x0A) rfl,
    digit_ne hb (c := 0x09) rfl, digit_ne hb (c := 0x0D) rfl]

/-- The first octet of a number, and what is due behind it. -/
theorem scanStep_value_number {stage : NumberStage} {b : UInt8} (stack : List Bracket)
    (h : NumberStage.sign.next? b = some stage) :
    scanStep .value stack b = .ok (.more (.number stage) stack) := by
  have hdigit := isDigitOctet_of_next? h
  simp only [NumberStage.next?, hdigit, if_true, beq_iff_eq] at h
  simp only [scanStep, valueStep, isSpace_of_digit hdigit, digit_ne hdigit (c := 0x6E) rfl,
    digit_ne hdigit (c := 0x74) rfl, digit_ne hdigit (c := 0x66) rfl,
    digit_ne hdigit (c := minus) rfl, hdigit, beq_iff_eq, Bool.false_eq_true, if_false, if_true]
  split_ifs at h ⊢ <;> cases h <;> rfl

theorem skipFrom_number {s rest : Octets} (h : IsNumber s) (stack : List Bracket)
    (hends : EndsNumber rest) :
    skipFrom .value stack (s ++ rest) = skipFrom .delimiter stack rest := by
  rcases h.exists_cons with ⟨t, rfl, hrest⟩ | ⟨b, t, stage, rfl, hnext, hrest⟩
  · rw [List.cons_append, skipFrom_of_more (.number .sign) stack rfl]
    exact skipFrom_rest hrest stack hends
  · rw [List.cons_append, skipFrom_of_more _ _ (scanStep_value_number stack hnext)]
    exact skipFrom_rest hrest stack hends

/-- The first octet of a value, or of a part of a list or object. -/
def Part.Opens : Part → Octets → Prop
  | value, s | items, s => ∃ b t, s = b :: t ∧ isSpace b = false ∧ b ≠ closeList
  | members, s => ∃ t, s = quote :: t

theorem Grammar.opens {part : Part} {s : Octets} (h : Grammar part s) : part.Opens s := by
  induction h with
  | null | true | false | emptyList | list | emptyObject | object =>
    exact ⟨_, _, rfl, rfl, by decide⟩
  | string h =>
    obtain ⟨t, -, rfl⟩ := h
    exact ⟨_, _, rfl, rfl, by decide⟩
  | number h =>
    rcases h.exists_cons with ⟨t, rfl, -⟩ | ⟨b, t, stage, rfl, hnext, -⟩
    · exact ⟨_, _, rfl, rfl, by decide⟩
    · have hdigit := isDigitOctet_of_next? hnext
      exact ⟨b, t, rfl, isSpace_of_digit hdigit, digit_ne hdigit rfl⟩
  | lastItem _ _ ih | item _ _ _ _ ih =>
    obtain ⟨b, t, rfl, hb⟩ := ih
    exact ⟨b, _, rfl, hb⟩
  | lastMember hk | member hk =>
    obtain ⟨t, -, rfl⟩ := hk
    exact ⟨_, rfl⟩

/-- How a part of the grammar is passed over. -/
def Part.Passes : Part → Octets → Prop
  | value, s => ∀ stack rest, EndsNumber rest →
      skipFrom .value stack (s ++ rest) = skipFrom .delimiter stack rest
  | items, s => ∀ stack rest,
      skipFrom .value (.list :: stack) (s ++ rest) = skipFrom .delimiter stack rest
  | members, s => ∀ stack rest,
      skipFrom .key (.object :: stack) (s ++ rest) = skipFrom .delimiter stack rest

/-- Behind the bracket of a list that is not empty, a value is due. -/
theorem skipFrom_listStart {stack : List Bracket} {b : UInt8} (hb : isSpace b = false)
    (hclose : b ≠ closeList) (s : Octets) :
    skipFrom .listStart stack (b :: s) = skipFrom .value stack (b :: s) := by
  rw [skipFrom, skipFrom]
  simp [scanStep, hb, hclose]

/-- Behind the bracket of an object that is not empty, a key is due. -/
theorem skipFrom_objectStart {stack : List Bracket} (s : Octets) :
    skipFrom .objectStart stack (quote :: s) = skipFrom .key stack (quote :: s) := rfl

/-- The octet that closes a bracket. -/
def Bracket.closing : Bracket → UInt8
  | list => closeList
  | object => closeObject

/-- What is due behind a comma inside a bracket. -/
def Bracket.due : Bracket → Scan
  | list => .value
  | object => .key

theorem skipFrom_closing (bracket : Bracket) {w : Octets} (hw : IsBlank w) (stack : List Bracket)
    (s : Octets) :
    skipFrom .delimiter (bracket :: stack) (w ++ bracket.closing :: s) =
      skipFrom .delimiter stack s := by
  rw [skipFrom_blank (scanStep_delimiter_blank _ _) hw]
  cases bracket with
  | list | object => exact skipFrom_of_valueEnd _ rfl s

theorem skipFrom_comma (bracket : Bracket) {w : Octets} (hw : IsBlank w) (stack : List Bracket)
    (s : Octets) :
    skipFrom .delimiter (bracket :: stack) (w ++ comma :: s) =
      skipFrom bracket.due (bracket :: stack) s := by
  rw [skipFrom_blank (scanStep_delimiter_blank _ _) hw]
  cases bracket with
  | list | object => exact skipFrom_of_more _ _ rfl s

theorem skipFrom_string {k : Octets} (hk : IsString k) (stack : List Bracket) (s : Octets) :
    skipFrom .value stack (k ++ s) = skipFrom .delimiter stack s := by
  obtain ⟨t, ht, rfl⟩ := hk
  rw [List.cons_append, List.append_assoc, List.singleton_append,
    skipFrom_of_more (.text false) stack rfl]
  exact skipFrom_quotable ht false stack s

/-- A key with the colon behind it. -/
theorem skipFrom_key {k w w' : Octets} (hk : IsString k) (hw : IsBlank w) (hw' : IsBlank w')
    (stack : List Bracket) (s : Octets) :
    skipFrom .key stack (k ++ (w ++ colon :: (w' ++ s))) = skipFrom .value stack s := by
  obtain ⟨t, ht, rfl⟩ := hk
  rw [List.cons_append, List.append_assoc, List.singleton_append,
    skipFrom_of_more (.text true) stack rfl, skipFrom_quotable ht true,
    show afterText true = .colon from rfl, skipFrom_blank (scanStep_colon_blank _) hw,
    skipFrom_of_more .value stack rfl,
    skipFrom_blank (scanStep_value_blank _) hw']

/-- Each part of the grammar is passed over as a whole. -/
theorem skipFrom_grammar {part : Part} {s : Octets} (h : Grammar part s) : part.Passes s := by
  induction h with
  | null | true | false =>
    intro stack rest _
    rw [List.cons_append, skipFrom_of_more _ _ rfl]
    exact skipFrom_word (List.cons_ne_nil _ _) stack rest
  | number h => exact fun stack rest hends => skipFrom_number h stack hends
  | string h => exact fun stack rest _ => skipFrom_string h stack rest
  | emptyList hw =>
    intro stack rest _
    rw [List.cons_append, List.append_assoc, List.singleton_append,
      skipFrom_of_more .listStart (.list :: stack) rfl,
      skipFrom_blank (scanStep_listStart_blank _) hw]
    exact skipFrom_of_valueEnd _ rfl rest
  | list hw h ih =>
    intro stack rest _
    obtain ⟨b, t, rfl, hb, hclose⟩ := h.opens
    rw [List.cons_append, List.append_assoc,
      skipFrom_of_more .listStart (.list :: stack) rfl,
      skipFrom_blank (scanStep_listStart_blank _) hw, List.cons_append,
      skipFrom_listStart hb hclose]
    exact ih stack rest
  | emptyObject hw =>
    intro stack rest _
    rw [List.cons_append, List.append_assoc, List.singleton_append,
      skipFrom_of_more .objectStart (.object :: stack) rfl,
      skipFrom_blank (scanStep_objectStart_blank _) hw]
    exact skipFrom_of_valueEnd _ rfl rest
  | object hw h ih =>
    intro stack rest _
    obtain ⟨t, rfl⟩ := h.opens
    rw [List.cons_append, List.append_assoc,
      skipFrom_of_more .objectStart (.object :: stack) rfl,
      skipFrom_blank (scanStep_objectStart_blank _) hw, List.cons_append, skipFrom_objectStart]
    exact ih stack rest
  | lastItem hv hw ih =>
    intro stack rest
    simp only [List.append_assoc, List.singleton_append]
    rw [ih _ _ (endsNumber_append hw _ (by decide))]
    exact skipFrom_closing .list hw stack rest
  | item hv hw hw' more ih ihmore =>
    intro stack rest
    simp only [List.append_assoc, List.cons_append]
    rw [ih _ _ (endsNumber_append hw _ (by decide)), skipFrom_comma .list hw]
    exact (skipFrom_blank (scanStep_value_blank _) hw' _).trans (ihmore stack rest)
  | lastMember hk hw hw' hv hw'' ih =>
    intro stack rest
    simp only [List.append_assoc, List.cons_append, List.nil_append]
    rw [skipFrom_key hk hw hw', ih _ _ (endsNumber_append hw'' _ (by decide))]
    exact skipFrom_closing .object hw'' stack rest
  | member hk hw hw' hv hw'' hw₃ more ih ihmore =>
    intro stack rest
    simp only [List.append_assoc, List.cons_append]
    rw [skipFrom_key hk hw hw', ih _ _ (endsNumber_append hw'' _ (by decide)),
      skipFrom_comma .object hw'']
    exact (skipFrom_blank (scanStep_key_blank _) hw₃ _).trans (ihmore stack rest)

/-- A value is passed over, with white space in front of it, whatever follows that does not go
on with a number. -/
theorem skipValue_value {w v rest : Octets} (hw : IsBlank w) (hv : IsValue v)
    (hends : EndsNumber rest) : skipValue (w ++ (v ++ rest)) = .ok rest := by
  rw [skipValue, skipFrom_blank (scanStep_value_blank _) hw, skipFrom_grammar hv [] rest hends,
    skipFrom_delimiter_nil]

/-! ## Nothing but values is passed over -/

/-- What is due in front of a part of the grammar. -/
def Part.scan : Part → Scan
  | value | items => .value
  | members => .key

/-- The open brackets in front of a part of the grammar. -/
def Part.stack : Part → List Bracket → List Bracket
  | value, outer => outer
  | items, outer => .list :: outer
  | members, outer => .object :: outer

/-- What is passed over in this input is white space and this part of the grammar. -/
def Part.Covers (part : Part) (s : Octets) : Prop :=
  ∀ stack rest, skipFrom part.scan (part.stack stack) s = .ok rest →
    ∃ w v s', s = w ++ (v ++ s') ∧ IsBlank w ∧ Grammar part v ∧
      skipFrom .delimiter stack s' = .ok rest

/-- White space that may stand in front, and what has to be there behind it. -/
theorem exists_blank_of_skip {scan : Scan} {stack : List Bracket}
    (hblank : ∀ b, isSpace b = true → scanStep scan stack b = .ok (.more scan stack))
    {fault : Fault} (hend : scanEnd scan stack = .error fault) {s rest : Octets}
    (h : skipFrom scan stack s = .ok rest) :
    ∃ w b t, s = w ++ b :: t ∧ IsBlank w ∧ isSpace b = false ∧
      skipFrom scan stack (b :: t) = .ok rest := by
  obtain ⟨w, hw, hs⟩ := exists_blank_append s
  rw [hs, skipFrom_blank hblank hw] at h
  cases hdrop : dropSpaces s with
  | nil =>
    rw [hdrop, skipFrom, hend] at h
    cases h
  | cons b t =>
    rw [hdrop] at hs h
    exact ⟨w, b, t, hs, hw, isSpace_of_dropSpaces hdrop, h⟩

/-- The first octet of a value. -/
theorem valueStep_cases {stack : List Bracket} {b : UInt8} {p : Progress}
    (hspace : isSpace b = false) (h : valueStep stack b = .ok p) :
    (b = 0x6E ∧ p = .more (.word nullRest) stack) ∨
    (b = 0x74 ∧ p = .more (.word trueRest) stack) ∨
    (b = 0x66 ∧ p = .more (.word falseRest) stack) ∨
    (b = minus ∧ p = .more (.number .sign) stack) ∨
    (∃ stage, NumberStage.sign.next? b = some stage ∧ p = .more (.number stage) stack) ∨
    (b = quote ∧ p = .more (.text false) stack) ∨
    (b = openList ∧ p = .more .listStart (.list :: stack)) ∨
    (b = openObject ∧ p = .more .objectStart (.object :: stack)) := by
  simp only [valueStep, hspace, Bool.false_eq_true, if_false, beq_iff_eq] at h
  split_ifs at h <;> cases h <;> simp_all [nullRest, trueRest, falseRest, NumberStage.next?]

/-- The delimiter behind a value inside a bracket. -/
theorem exists_of_skip_delimiter {bracket : Bracket} {stack : List Bracket} {s rest : Octets}
    (h : skipFrom .delimiter (bracket :: stack) s = .ok rest) :
    ∃ w s', IsBlank w ∧
      ((s = w ++ bracket.closing :: s' ∧ skipFrom .delimiter stack s' = .ok rest) ∨
        (s = w ++ comma :: s' ∧ skipFrom bracket.due (bracket :: stack) s' = .ok rest)) := by
  obtain ⟨fault, hend⟩ : ∃ fault, scanEnd .delimiter (bracket :: stack) = .error fault := by
    cases bracket with
    | list | object => exact ⟨_, rfl⟩
  obtain ⟨w, b, t, rfl, hw, hspace, h⟩ :=
    exists_blank_of_skip (scanStep_delimiter_blank bracket stack) hend h
  refine ⟨w, t, hw, ?_⟩
  by_cases hcomma : b = comma
  · subst hcomma
    have hnext := skipFrom_comma bracket isBlank_nil stack t
    exact .inr ⟨rfl, hnext.symm.trans h⟩
  by_cases hclosing : b = bracket.closing
  · subst hclosing
    have hnext := skipFrom_closing bracket isBlank_nil stack t
    exact .inl ⟨rfl, hnext.symm.trans h⟩
  cases bracket with
  | list => simp_all [skipFrom, scanStep, delimiterStep, Bracket.closing]
  | object => simp_all [skipFrom, scanStep, delimiterStep, Bracket.closing]

/-- A key with the colon behind it. -/
theorem exists_key_of_skip {stack : List Bracket} {s rest : Octets}
    (h : skipFrom .key stack s = .ok rest) :
    ∃ w₀ k w s', s = w₀ ++ (k ++ (w ++ colon :: s')) ∧ IsBlank w₀ ∧ IsString k ∧ IsBlank w ∧
      skipFrom .value stack s' = .ok rest := by
  obtain ⟨w₀, b, t, rfl, hw₀, hspace, h⟩ := exists_blank_of_skip (scanStep_key_blank stack) rfl h
  by_cases hquote : b = quote
  · subst hquote
    rw [skipFrom_of_more (.text true) stack rfl] at h
    obtain ⟨k, s', hk, rfl, hkey⟩ := exists_quotable_of_skip h
    obtain ⟨w, c, t, rfl, hw, hc, hsign⟩ :=
      exists_blank_of_skip (scanStep_colon_blank stack) rfl hkey
    by_cases hcolon : c = colon
    · subst hcolon
      rw [skipFrom_of_more .value stack rfl] at hsign
      refine ⟨w₀, quote :: (k ++ [quote]), w, t, ?_, hw₀, ⟨k, hk, rfl⟩, hw, hsign⟩
      simp
    · simp [skipFrom, scanStep, hc, hcolon] at hsign
  · simp [skipFrom, scanStep, keyStep, hspace, hquote] at h

/-- What is passed over behind the bracket of a list is the rest of the list. -/
theorem exists_list_of_skip {stack : List Bracket} {t rest : Octets}
    (ih : ∀ s', s'.length ≤ t.length → Part.items.Covers s')
    (h : skipFrom .listStart (.list :: stack) t = .ok rest) :
    ∃ v s', openList :: t = v ++ s' ∧ IsValue v ∧ skipFrom .delimiter stack s' = .ok rest := by
  obtain ⟨w, b, u, rfl, hw, hb, h⟩ := exists_blank_of_skip (scanStep_listStart_blank _) rfl h
  -- The list is empty, or `b` already belongs to its first value.
  by_cases hclose : b = closeList
  · subst hclose
    rw [skipFrom_of_valueEnd stack rfl] at h
    exact ⟨openList :: (w ++ [closeList]), u, by simp, .emptyList hw, h⟩
  · rw [skipFrom_listStart hb hclose] at h
    obtain ⟨w', v, s', hparts, hw', hv, hafter⟩ := ih (b :: u) (by simp) _ _ h
    refine ⟨openList :: (w ++ (w' ++ v)), s', ?_, ?_, hafter⟩
    · rw [hparts]
      simp
    · have hlist := Grammar.list (hw.append hw') hv
      rwa [List.append_assoc] at hlist

/-- What is passed over behind the bracket of an object is the rest of the object. -/
theorem exists_object_of_skip {stack : List Bracket} {t rest : Octets}
    (ih : ∀ s', s'.length ≤ t.length → Part.members.Covers s')
    (h : skipFrom .objectStart (.object :: stack) t = .ok rest) :
    ∃ v s', openObject :: t = v ++ s' ∧ IsValue v ∧ skipFrom .delimiter stack s' = .ok rest := by
  obtain ⟨w, b, u, rfl, hw, hb, h⟩ := exists_blank_of_skip (scanStep_objectStart_blank _) rfl h
  by_cases hclose : b = closeObject
  · subst hclose
    rw [skipFrom_of_valueEnd stack rfl] at h
    exact ⟨openObject :: (w ++ [closeObject]), u, by simp, .emptyObject hw, h⟩
  · have hquote : b = quote := by
      by_contra hquote
      simp [skipFrom, scanStep, keyStep, hb, hclose, hquote] at h
    subst hquote
    rw [skipFrom_objectStart] at h
    obtain ⟨w', v, s', hparts, hw', hv, hafter⟩ := ih (quote :: u) (by simp) _ _ h
    refine ⟨openObject :: (w ++ (w' ++ v)), s', ?_, ?_, hafter⟩
    · rw [hparts]
      simp
    · have hobject := Grammar.object (hw.append hw') hv
      rwa [List.append_assoc] at hobject

/-- A value, given that lists and objects that are shorter are values and members. -/
theorem covers_value {s : Octets} (ih : ∀ part s', s'.length < s.length → Part.Covers part s') :
    Part.value.Covers s := by
  intro stack rest h
  obtain ⟨w, b, t, rfl, hw, hspace, h⟩ := exists_blank_of_skip (scanStep_value_blank stack) rfl h
  have hinside : ∀ part s', s'.length ≤ t.length → Part.Covers part s' := by
    intro part s' hle
    refine ih part s' ?_
    simp only [List.length_append, List.length_cons]
    omega
  suffices ∃ v s', b :: t = v ++ s' ∧ IsValue v ∧ skipFrom .delimiter stack s' = .ok rest by
    obtain ⟨v, s', hs, hv, hafter⟩ := this
    exact ⟨w, v, s', by rw [hs], hw, hv, hafter⟩
  cases hstep : valueStep stack b with
  | error f => simp [skipFrom, scanStep, hstep] at h
  | ok p =>
    have hscan : scanStep .value stack b = .ok p := hstep
    rcases valueStep_cases hspace hstep with ⟨rfl, rfl⟩ | ⟨rfl, rfl⟩ | ⟨rfl, rfl⟩ | ⟨rfl, rfl⟩ |
      ⟨stage, hnext, rfl⟩ | ⟨rfl, rfl⟩ | ⟨rfl, rfl⟩ | ⟨rfl, rfl⟩ <;>
      replace h := (skipFrom_of_more _ _ hscan t).symm.trans h
    · obtain ⟨s', rfl, hafter⟩ := exists_of_skip_word (List.cons_ne_nil _ _) h
      exact ⟨_, s', rfl, .null, hafter⟩
    · obtain ⟨s', rfl, hafter⟩ := exists_of_skip_word (List.cons_ne_nil _ _) h
      exact ⟨_, s', rfl, .true, hafter⟩
    · obtain ⟨s', rfl, hafter⟩ := exists_of_skip_word (List.cons_ne_nil _ _) h
      exact ⟨_, s', rfl, .false, hafter⟩
    · obtain ⟨u, s', rfl, hrest, hafter⟩ := exists_rest_of_skip h
      exact ⟨minus :: u, s', rfl, .number (.inr ⟨u, rfl, hrest⟩), hafter⟩
    · obtain ⟨u, s', rfl, hrest, hafter⟩ := exists_rest_of_skip h
      have hunsigned : NumberStage.sign.Rest (b :: u) :=
        NumberStage.rest_cons.mpr ⟨stage, hnext, hrest⟩
      exact ⟨b :: u, s', rfl, .number (.inl hunsigned), hafter⟩
    · obtain ⟨u, s', hu, rfl, hafter⟩ := exists_quotable_of_skip h
      exact ⟨quote :: (u ++ [quote]), s', by simp, .string ⟨u, hu, rfl⟩, hafter⟩
    · exact exists_list_of_skip (hinside .items) h
    · exact exists_object_of_skip (hinside .members) h

/-- The values of a list, one of them at a time. -/
theorem covers_items {s : Octets} (ih : ∀ part s', s'.length < s.length → Part.Covers part s') :
    Part.items.Covers s := by
  intro stack rest h
  obtain ⟨w, v, s', rfl, hw, hv, hvalue⟩ := covers_value ih _ _ h
  obtain ⟨w', s', hw', ⟨rfl, hafter⟩ | ⟨rfl, hnext⟩⟩ := exists_of_skip_delimiter hvalue
  · exact ⟨w, v ++ (w' ++ [closeList]), s', by simp [Bracket.closing], hw, .lastItem hv hw',
      hafter⟩
  · have hshorter : s'.length < (w ++ (v ++ (w' ++ comma :: s'))).length := by
      simp only [List.length_append, List.length_cons]
      omega
    obtain ⟨w'', vs, s'', rfl, hw'', hvs, hafter⟩ := ih .items s' hshorter _ _ hnext
    exact ⟨w, v ++ (w' ++ comma :: (w'' ++ vs)), s'', by simp, hw, .item hv hw' hw'' hvs, hafter⟩

/-- The members of an object, one of them at a time. -/
theorem covers_members {s : Octets} (ih : ∀ part s', s'.length < s.length → Part.Covers part s') :
    Part.members.Covers s := by
  intro stack rest h
  obtain ⟨w₀, k, w, s', rfl, hw₀, hk, hw, hkey⟩ := exists_key_of_skip h
  have hshorter : ∀ u t' : Octets, s' = u ++ t' →
      t'.length < (w₀ ++ (k ++ (w ++ colon :: s'))).length := by
    rintro u t' rfl
    simp only [List.length_append, List.length_cons]
    omega
  obtain ⟨w', v, s'', rfl, hw', hv, hvalue⟩ := ih .value s' (hshorter [] s' rfl) _ _ hkey
  obtain ⟨w'', s₃, hw'', ⟨rfl, hafter⟩ | ⟨rfl, hnext⟩⟩ := exists_of_skip_delimiter hvalue
  · exact ⟨w₀, k ++ (w ++ colon :: (w' ++ (v ++ (w'' ++ [closeObject])))), s₃,
      by simp [Bracket.closing], hw₀, .lastMember hk hw hw' hv hw'', hafter⟩
  · obtain ⟨w₃, ms, s₄, rfl, hw₃, hms, hafter⟩ :=
      ih .members s₃ (hshorter (w' ++ (v ++ (w'' ++ [comma]))) s₃ (by simp)) _ _ hnext
    exact ⟨w₀, k ++ (w ++ colon :: (w' ++ (v ++ (w'' ++ comma :: (w₃ ++ ms))))), s₄, by simp, hw₀,
      .member hk hw hw' hv hw'' hw₃ hms, hafter⟩

/-- Whatever part of the grammar is due, it is what is passed over. -/
theorem Part.covers (part : Part) (s : Octets) : part.Covers s := by
  -- on the length of the input, for the parts together: they are each other's parts
  induction hn : s.length using Nat.strong_induction_on generalizing part s with
  | _ n ih =>
    have hshorter : ∀ part s', s'.length < s.length → Part.Covers part s' := fun part s' hlt =>
      ih s'.length (hn ▸ hlt) part s' rfl
    cases part with
    | value => exact covers_value hshorter
    | items => exact covers_items hshorter
    | members => exact covers_members hshorter

/-- What is passed over is white space and one value. -/
theorem exists_value_of_skip {s rest : Octets} (h : skipValue s = .ok rest) :
    ∃ w v, s = w ++ (v ++ rest) ∧ IsBlank w ∧ IsValue v := by
  obtain ⟨w, v, s', rfl, hw, hv, hafter⟩ := Part.value.covers s [] rest h
  rw [skipFrom_delimiter_nil] at hafter
  obtain rfl := Except.ok.inj hafter
  exact ⟨w, v, rfl, hw, hv⟩

end CatalogReplica.Json
