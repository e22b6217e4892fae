/-
# CatalogReplica.Proofs.Json.Numbers -- a number is read one octet at a time

The grammar says of what parts a number is made, and the machine that passes over values
says which octet may come at which stage. Of every stage, `NumberStage.Rest` tells what
completes the number from there, and `NumberStage.next?` which stage an octet leads to; one
octet more is taken off the rest by going on to the next stage (`rest_cons`). From this the
machine stops where the number does, provided that what follows cannot belong to it.
-/
import CatalogReplica.Proofs.Json.Grammar

namespace CatalogReplica.Json

/-! ## The grammar, one octet at a time -/

theorem isDigits_nil : IsDigits [] := fun _ h => absurd h List.not_mem_nil

theorem isDigits_cons {b : UInt8} {s : Octets} :
    IsDigits (b :: s) ↔ isDigitOctet b = true ∧ IsDigits s :=
  List.forall_mem_cons

theorem isNumeral_cons {b : UInt8} {s : Octets} :
    IsNumeral (b :: s) ↔ isDigitOctet b = true ∧ IsDigits s := by
  constructor
  · rintro ⟨c, t, hcons, hc, ht⟩
    obtain ⟨rfl, rfl⟩ := List.cons.inj hcons
    exact ⟨hc, ht⟩
  · rintro ⟨hb, hs⟩
    exact ⟨b, s, rfl, hb, hs⟩

theorem not_isNumeral_nil : ¬ IsNumeral [] := fun ⟨_, _, h, _⟩ => List.cons_ne_nil _ _ h.symm

theorem isFraction_cons {b : UInt8} {s : Octets} :
    IsFraction (b :: s) ↔ b = point ∧ IsNumeral s := by
  constructor
  · rintro (h | ⟨t, hcons, ht⟩)
    · cases h
    · obtain ⟨rfl, rfl⟩ := List.cons.inj hcons
      exact ⟨rfl, ht⟩
  · rintro ⟨rfl, hs⟩
    exact .inr ⟨s, rfl, hs⟩

theorem isPower_cons {b : UInt8} {s : Octets} :
    IsPower (b :: s) ↔
      (isDigitOctet b = true ∧ IsDigits s) ∨ ((b = plus ∨ b = minus) ∧ IsNumeral s) := by
  refine or_congr isNumeral_cons ⟨?_, ?_⟩
  · rintro ⟨c, t, hcons, hc, ht⟩
    obtain ⟨rfl, rfl⟩ := List.cons.inj hcons
    exact ⟨hc, ht⟩
  · rintro ⟨hb, hs⟩
    exact ⟨b, s, rfl, hb, hs⟩

theorem isExponent_cons {b : UInt8} {s : Octets} :
    IsExponent (b :: s) ↔ isExponentMark b = true ∧ IsPower s := by
  constructor
  · rintro (h | ⟨c, t, hcons, hc, ht⟩)
    · cases h
    · obtain ⟨rfl, rfl⟩ := List.cons.inj hcons
      exact ⟨hc, ht⟩
  · rintro ⟨hb, hs⟩
    exact .inr ⟨b, s, rfl, hb, hs⟩

/-- An input in two parts, the first of which takes the first octet or is empty. -/
theorem exists_parts_cons {P Q : Octets → Prop} {b : UInt8} {s : Octets} :
    (∃ t u, b :: s = t ++ u ∧ P t ∧ Q u) ↔
      (P [] ∧ Q (b :: s)) ∨ ∃ t u, s = t ++ u ∧ P (b :: t) ∧ Q u := by
  constructor
  · rintro ⟨t, u, hparts, ht, hu⟩
    rcases List.cons_eq_append_iff.mp hparts with ⟨rfl, rfl⟩ | ⟨t', rfl, rfl⟩
    · exact .inl ⟨ht, hu⟩
    · exact .inr ⟨t', u, rfl, ht, hu⟩
  · rintro (⟨ht, hu⟩ | ⟨t, u, rfl, ht, hu⟩)
    · exact ⟨[], b :: s, rfl, ht, hu⟩
    · exact ⟨b :: t, u, rfl, ht, hu⟩

theorem isWhole_cons {b : UInt8} {s : Octets} :
    IsWhole (b :: s) ↔
      (b = zeroDigit ∧ s = []) ∨ (isDigitOctet b = true ∧ b ≠ zeroDigit ∧ IsDigits s) := by
  refine or_congr List.cons_eq_cons ⟨?_, ?_⟩
  · rintro ⟨c, t, hcons, hc, hzero, ht⟩
    obtain ⟨rfl, rfl⟩ := List.cons.inj hcons
    exact ⟨hc, hzero, ht⟩
  · rintro ⟨hb, hzero, hs⟩
    exact ⟨b, s, rfl, hb, hzero, hs⟩

theorem isDecimals_cons {b : UInt8} {s : Octets} :
    IsDecimals (b :: s) ↔
      (isExponentMark b = true ∧ IsPower s) ∨
        (b = point ∧ ∃ t e, s = t ++ e ∧ IsNumeral t ∧ IsExponent e) := by
  refine exists_parts_cons.trans (or_congr ?_ ?_)
  · rw [isExponent_cons]
    exact and_iff_right (.inl rfl)
  · simp only [isFraction_cons]
    constructor
    · rintro ⟨t, e, hs, ⟨hb, ht⟩, he⟩
      exact ⟨hb, t, e, hs, ht, he⟩
    · rintro ⟨hb, t, e, hs, ht, he⟩
      exact ⟨t, e, hs, ⟨hb, ht⟩, he⟩

namespace NumberStage

/-- What completes a number that has been read so far. -/
def Rest : NumberStage → Octets → Prop
  | sign, s => IsUnsigned s
  | zero, s => IsDecimals s
  | whole, s => ∃ t d, s = t ++ d ∧ IsDigits t ∧ IsDecimals d
  | point, s => ∃ t e, s = t ++ e ∧ IsNumeral t ∧ IsExponent e
  | fraction, s => ∃ t e, s = t ++ e ∧ IsDigits t ∧ IsExponent e
  | mark, s => IsPower s
  | markSign, s => IsNumeral s
  | exponent, s => IsDigits s

/-- The stage behind an octet that belongs to the number. -/
def next? (stage : NumberStage) (b : UInt8) : Option NumberStage :=
  match stage with
  | sign => if b == zeroDigit then some zero else if isDigitOctet b then some whole else none
  | zero =>
    if b == Json.point then some point else if isExponentMark b then some mark else none
  | whole =>
    if isDigitOctet b then some whole
    else if b == Json.point then some point
    else if isExponentMark b then some mark
    else none
  | point => if isDigitOctet b then some fraction else none
  | fraction =>
    if isDigitOctet b then some fraction else if isExponentMark b then some mark else none
  | mark =>
    if b == plus || b == minus then some markSign
    else if isDigitOctet b then some exponent
    else none
  | markSign | exponent => if isDigitOctet b then some exponent else none

theorem rest_nil {stage : NumberStage} : stage.Rest [] ↔ stage.isComplete = true := by
  have hdecimals : IsDecimals [] := ⟨[], [], rfl, .inl rfl, .inl rfl⟩
  cases stage with
  | sign =>
    refine iff_of_false ?_ Bool.false_ne_true
    rintro ⟨n, d, hparts, hn, -⟩
    obtain ⟨rfl, -⟩ := List.nil_eq_append_iff.mp hparts
    rcases hn with h | ⟨b, t, h, -⟩ <;> cases h
  | zero => exact iff_of_true hdecimals rfl
  | whole => exact iff_of_true ⟨[], [], rfl, isDigits_nil, hdecimals⟩ rfl
  | point =>
    refine iff_of_false ?_ Bool.false_ne_true
    rintro ⟨t, e, hparts, ht, -⟩
    obtain ⟨rfl, -⟩ := List.nil_eq_append_iff.mp hparts
    exact not_isNumeral_nil ht
  | fraction => exact iff_of_true ⟨[], [], rfl, isDigits_nil, .inl rfl⟩ rfl
  | mark =>
    refine iff_of_false ?_ Bool.false_ne_true
    rintro (h | ⟨b, t, h, -⟩)
    · exact not_isNumeral_nil h
    · cases h
  | markSign => exact iff_of_false not_isNumeral_nil Bool.false_ne_true
  | exponent => exact iff_of_true isDigits_nil rfl

theorem isDigitOctet_point : isDigitOctet Json.point = false := rfl

theorem isExponentMark_point : isExponentMark Json.point = false := rfl

/-- A digit is nothing else that may stand in a number. -/
theorem digit_apart {b : UInt8} (h : isDigitOctet b = true) :
    b ≠ Json.point ∧ isExponentMark b = false ∧ b ≠ plus ∧ b ≠ minus := by
  refine ⟨?_, ?_, ?_, ?_⟩
  · rintro rfl
    cases h
  · by_contra hmark
    simp only [isExponentMark, Bool.not_eq_false, Bool.or_eq_true, beq_iff_eq] at hmark
    rcases hmark with rfl | rfl <;> cases h
  · rintro rfl
    cases h
  · rintro rfl
    cases h

/-- One octet more of a number. -/
theorem rest_cons {stage : NumberStage} {b : UInt8} {s : Octets} :
    stage.Rest (b :: s) ↔ ∃ stage', stage.next? b = some stage' ∧ stage'.Rest s := by
  cases stage with
  | sign =>
    -- A leading zero ends the whole part; any other digit leaves it open.
    have hnil : ¬ IsWhole [] := by
      rintro (h | ⟨c, t, h, -⟩) <;> cases h
    refine exists_parts_cons.trans ?_
    simp only [hnil, false_and, false_or, isWhole_cons, next?]
    by_cases hzero : b = zeroDigit
    · simp only [hzero, Rest, beq_self_eq_true, if_true, Option.some.injEq, exists_eq_left',
        true_and, ne_eq, not_true_eq_false, and_false, false_and, or_false]
      constructor
      · rintro ⟨t, u, rfl, rfl, hu⟩
        exact hu
      · intro hs
        exact ⟨[], s, rfl, rfl, hs⟩
    · by_cases hdigit : isDigitOctet b = true
      · simp [hzero, hdigit, Rest]
      · simp [hzero, hdigit]
  | zero =>
    simp only [Rest, isDecimals_cons, next?]
    by_cases hpoint : b = Json.point
    · simp [hpoint, isExponentMark_point]
    · by_cases hmark : isExponentMark b = true
      · simp [hpoint, hmark]
      · simp [hpoint, hmark]
  | whole =>
    refine exists_parts_cons.trans ?_
    simp only [isDigits_nil, true_and, isDigits_cons, isDecimals_cons, next?]
    by_cases hdigit : isDigitOctet b = true
    · simp [hdigit, (digit_apart hdigit).1, (digit_apart hdigit).2.1, Rest]
    · by_cases hpoint : b = Json.point
      · simp [hpoint, isDigitOctet_point, isExponentMark_point, Rest]
      · by_cases hmark : isExponentMark b = true
        · simp [hdigit, hpoint, hmark, Rest]
        · simp [hdigit, hpoint, hmark]
  | point =>
    refine exists_parts_cons.trans ?_
    simp only [not_isNumeral_nil, false_and, false_or, isNumeral_cons, next?]
    by_cases hdigit : isDigitOctet b = true
    · simp [hdigit, Rest]
    · simp [hdigit]
  | fraction =>
    refine exists_parts_cons.trans ?_
    simp only [isDigits_nil, true_and, isDigits_cons, isExponent_cons, next?]
    by_cases hdigit : isDigitOctet b = true
    · simp [hdigit, (digit_apart hdigit).2.1, Rest]
    · by_cases hmark : isExponentMark b = true
      · simp [hdigit, hmark, Rest]
      · simp [hdigit, hmark]
  | mark =>
    simp only [Rest, isPower_cons, next?]
    by_cases hdigit : isDigitOctet b = true
    · simp [hdigit, (digit_apart hdigit).2.2]
    · by_cases hsign : b = plus ∨ b = minus
      · simp [hdigit, hsign]
      · simp [hdigit, hsign]
  | markSign =>
    simp only [Rest, isNumeral_cons, next?]
    by_cases hdigit : isDigitOctet b = true
    · simp [hdigit]
    · simp [hdigit]
  | exponent =>
    simp only [Rest, isDigits_cons, next?]
    by_cases hdigit : isDigitOctet b = true
    · simp [hdigit]
    · simp [hdigit]

end NumberStage

theorem digit_ne {b c : UInt8} (hb : isDigitOctet b = true) (hc : isDigitOctet c = false) :
    b ≠ c := by
  rintro rfl
  exact Bool.false_ne_true (hc.symm.trans hb)

/-- A number without its sign starts with a digit. -/
theorem isDigitOctet_of_next? {stage : NumberStage} {b : UInt8}
    (h : NumberStage.sign.next? b = some stage) : isDigitOctet b = true := by
  by_contra hdigit
  have hzero : b ≠ zeroDigit := by
    rintro rfl
    exact hdigit rfl
  simp [NumberStage.next?, hdigit, hzero] at h

/-- A number is a sign with the rest of it, or starts with a digit. -/
theorem IsNumber.exists_cons {s : Octets} (h : IsNumber s) :
    (∃ t, s = minus :: t ∧ NumberStage.sign.Rest t) ∨
      ∃ b t stage, s = b :: t ∧ NumberStage.sign.next? b = some stage ∧ stage.Rest t := by
  rcases h with h | ⟨t, rfl, h⟩
  · cases s with
    | nil =>
      have hrest : NumberStage.sign.Rest [] := h
      cases NumberStage.rest_nil.mp hrest
    | cons b t =>
      have hrest : NumberStage.sign.Rest (b :: t) := h
      obtain ⟨stage, hnext, hrest⟩ := NumberStage.rest_cons.mp hrest
      exact .inr ⟨b, t, stage, rfl, hnext, hrest⟩
  · exact .inl ⟨t, rfl, h⟩

/-! ## The machine in a number -/

/-- An octet that belongs to the number. -/
theorem numberStep_of_next {stage stage' : NumberStage} {b : UInt8} (stack : List Bracket)
    (h : stage.next? b = some stage') :
    numberStep stage stack b = .ok (.more (.number stage') stack) := by
  cases stage with
  | zero =>
    have hdigit : isDigitOctet b = false := by
      by_contra hdigit
      rw [Bool.not_eq_false] at hdigit
      obtain ⟨hpoint, hmark, -⟩ := NumberStage.digit_apart hdigit
      simp [NumberStage.next?, hpoint, hmark] at h
    simp only [NumberStage.next?] at h
    simp only [numberStep, hdigit, Bool.false_eq_true, if_false]
    split_ifs at h ⊢ <;> cases h <;> rfl
  | sign | whole | point | fraction | mark | markSign | exponent =>
    simp only [NumberStage.next?] at h
    simp only [numberStep]
    split_ifs at h ⊢ <;> cases h <;> rfl

/-- In front of an octet that does not belong to it a number ends, if it may. -/
theorem numberStep_of_none {stage : NumberStage} {b : UInt8} {stack : List Bracket} {p : Progress}
    (h : stage.next? b = none) (hok : numberStep stage stack b = .ok p) :
    stage.isComplete = true ∧ delimiterStep stack b = .ok p := by
  cases stage with
  | sign | point | mark | markSign =>
    simp only [NumberStage.next?] at h
    simp only [numberStep] at hok
    split_ifs at h hok
  | zero | whole | fraction | exponent =>
    simp only [NumberStage.next?] at h
    simp only [numberStep] at hok
    split_ifs at h hok
    exact ⟨rfl, hok⟩

/-- No number goes on with this. -/
def EndsNumber (s : Octets) : Prop :=
  ∀ b t, s = b :: t → isDigitOctet b = false ∧ b ≠ point ∧ isExponentMark b = false

/-- White space, or a sign, ends a number. -/
theorem endsNumber_append {w : Octets} (hw : IsBlank w) {c : UInt8} (s : Octets)
    (hc : isDigitOctet c = false ∧ c ≠ point ∧ isExponentMark c = false) :
    EndsNumber (w ++ c :: s) := by
  intro b t hcons
  cases w with
  | nil =>
    obtain ⟨rfl, -⟩ := List.cons.inj hcons
    exact hc
  | cons d w =>
    obtain ⟨rfl, -⟩ := List.cons.inj hcons
    have hd := hw d List.mem_cons_self
    simp only [isSpace, Bool.or_eq_true, beq_iff_eq] at hd
    rcases hd with ((rfl | rfl) | rfl) | rfl <;> decide

theorem numberStep_of_ends {stage : NumberStage} {b : UInt8} {s : Octets} (stack : List Bracket)
    (hcomplete : stage.isComplete = true) (hends : EndsNumber (b :: s)) :
    numberStep stage stack b = delimiterStep stack b := by
  obtain ⟨hdigit, hpoint, hmark⟩ := hends b s rfl
  cases stage with
  | sign | point | mark | markSign => cases hcomplete
  | zero | whole | fraction | exponent => simp [numberStep, hdigit, hpoint, hmark]

/-- The rest of a number is passed over. -/
theorem skipFrom_rest {stage : NumberStage} {t : Octets} (h : stage.Rest t)
    (stack : List Bracket) {rest : Octets} (hends : EndsNumber rest) :
    skipFrom (.number stage) stack (t ++ rest) = skipFrom .delimiter stack rest := by
  induction t generalizing stage with
  | nil =>
    have hcomplete := NumberStage.rest_nil.mp h
    cases rest with
    | nil => simp [skipFrom, scanEnd, hcomplete]
    | cons b s =>
      simp only [List.nil_append, skipFrom, scanStep, numberStep_of_ends stack hcomplete hends]
  | cons b t ih =>
    obtain ⟨stage', hnext, hrest⟩ := NumberStage.rest_cons.mp h
    simp only [List.cons_append, skipFrom, scanStep, numberStep_of_next stack hnext]
    exact ih hrest

/-- What is passed over of a number is the rest of it. -/
theorem exists_rest_of_skip {stage : NumberStage} {stack : List Bracket} {s rest : Octets}
    (h : skipFrom (.number stage) stack s = .ok rest) :
    ∃ t s', s = t ++ s' ∧ stage.Rest t ∧ skipFrom .delimiter stack s' = .ok rest := by
  induction s generalizing stage with
  | nil =>
    simp only [skipFrom, scanEnd] at h
    split at h
    · rename_i hcomplete
      exact ⟨[], [], rfl, NumberStage.rest_nil.mpr hcomplete, h⟩
    · cases h
  | cons b s ih =>
    rw [skipFrom] at h
    cases hnext : stage.next? b with
    | some stage' =>
      simp only [scanStep, numberStep_of_next stack hnext] at h
      obtain ⟨t, s', rfl, hrest, hafter⟩ := ih h
      exact ⟨b :: t, s', rfl, NumberStage.rest_cons.mpr ⟨stage', hnext, hrest⟩, hafter⟩
    | none =>
      cases hstep : numberStep stage stack b with
      | error f => simp [scanStep, hstep] at h
      | ok p =>
        obtain ⟨hcomplete, hdelimiter⟩ := numberStep_of_none hnext hstep
        refine ⟨[], b :: s, rfl, NumberStage.rest_nil.mpr hcomplete, ?_⟩
        rw [skipFrom]
        simpa only [scanStep, hstep, hdelimiter] using h

end CatalogReplica.Json
