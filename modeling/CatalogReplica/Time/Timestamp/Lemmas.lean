/-
# CatalogReplica.Time.Timestamp.Lemmas -- written timestamps are read back

Every part of a written timestamp is read back in front of whatever follows it,
and so is the whole text, also for a year outside 0..9999 and for every number of
fraction digits. A leap second is read back if it ends a minute. Any other one has
the text of the second behind it, and that is what it *settles* to when it is
written and read: `read t.text = .ok t.settled`.
-/
import CatalogReplica.Text.Digits.Lemmas
import CatalogReplica.Time.Timestamp.Reader
import CatalogReplica.Time.Timestamp.Written

namespace CatalogReplica

/-! ## Leap seconds -/

namespace TimeOfDay

/-- If this is a leap second, it ends a minute. -/
def LeapEndsMinute (t : TimeOfDay) : Prop := nanosPerSecond ≤ t.nano → t.second = 59

instance : DecidablePred LeapEndsMinute := fun t =>
  inferInstanceAs (Decidable (nanosPerSecond ≤ t.nano → t.second = 59))

/-- What is left of a time of day when it is written and read. A leap second that does not end
a minute becomes the second behind it. -/
def settled (t : TimeOfDay) : TimeOfDay :=
  if h : nanosPerSecond ≤ t.nano ∧ t.second < 59 then
    { t with
      second := t.second + 1
      nano := t.nano - nanosPerSecond
      second_lt := by omega
      nano_lt := Nat.lt_of_le_of_lt (Nat.sub_le _ _) t.nano_lt }
  else t

theorem settled_eq_iff {t : TimeOfDay} : t.settled = t ↔ t.LeapEndsMinute := by
  have hs := t.second_lt
  unfold settled
  split
  · rename_i h
    constructor
    · intro heq
      have hsecond := congrArg TimeOfDay.second heq
      exact absurd hsecond (Nat.succ_ne_self _)
    · intro hend
      have := hend h.1
      omega
  · rename_i h
    simp only [LeapEndsMinute, true_iff]
    omega

theorem shownSecond_le (t : TimeOfDay) : t.shownSecond ≤ 60 := by
  have hs := t.second_lt
  unfold shownSecond
  split <;> omega

theorem shownNano_lt (t : TimeOfDay) : t.shownNano < nanosPerSecond := by
  have hn := t.nano_lt
  unfold shownNano
  split <;> omega

/-- What is shown of a time of day names what it settles to. -/
theorem of?_shown (t : TimeOfDay) :
    of? t.hour t.minute t.shownSecond t.shownNano = some t.settled := by
  have hn := t.nano_lt
  have hs := t.second_lt
  rw [of?, dif_pos ⟨t.hour_lt, t.minute_lt, t.shownSecond_le, t.shownNano_lt⟩]
  by_cases hleap : t.nano < nanosPerSecond
  · have hsecond : t.shownSecond = t.second := if_pos hleap
    have hnano : t.shownNano = t.nano := if_pos hleap
    rw [dif_pos (hsecond ▸ hs), settled, dif_neg (by omega)]
    exact congrArg some (ext_iff.mp ⟨rfl, rfl, hsecond, hnano⟩)
  · have hsecond : t.shownSecond = t.second + 1 := if_neg hleap
    have hnano : t.shownNano = t.nano - nanosPerSecond := if_neg hleap
    by_cases hend : t.second < 59
    · rw [dif_pos (by omega), settled, dif_pos ⟨by omega, hend⟩]
      exact congrArg some (ext_iff.mp ⟨rfl, rfl, hsecond, hnano⟩)
    · rw [dif_neg (by omega), settled, dif_neg (by omega)]
      exact congrArg some (ext_iff.mp ⟨rfl, rfl, by dsimp only; omega, by dsimp only; omega⟩)

theorem shown_settled (t : TimeOfDay) :
    t.settled.hour = t.hour ∧ t.settled.minute = t.minute ∧
      t.settled.shownSecond = t.shownSecond ∧ t.settled.shownNano = t.shownNano := by
  have hn := t.nano_lt
  unfold settled
  split
  · rename_i h
    have hleap : ¬ t.nano < nanosPerSecond := Nat.not_lt.mpr h.1
    have hplain : t.nano - nanosPerSecond < nanosPerSecond := by omega
    exact ⟨rfl, rfl, (if_pos hplain).trans (if_neg hleap).symm,
      (if_pos hplain).trans (if_neg hleap).symm⟩
  · exact ⟨rfl, rfl, rfl, rfl⟩

theorem leapEndsMinute_of_of? {hour minute second nano : Nat} {t : TimeOfDay}
    (h : of? hour minute second nano = some t) : t.LeapEndsMinute := by
  unfold of? at h
  split at h
  · rename_i hrange
    split at h <;> cases h
    · exact fun hleap => absurd hrange.2.2.2 (Nat.not_lt.mpr hleap)
    · exact fun _ => rfl
  · cases h

end TimeOfDay

namespace Timestamp

/-- If this is in a leap second, the leap second ends a minute. -/
def LeapEndsMinute (t : Timestamp) : Prop := t.time.LeapEndsMinute

instance : DecidablePred LeapEndsMinute := fun t =>
  inferInstanceAs (Decidable t.time.LeapEndsMinute)

/-- What is left of a timestamp when it is written and read. -/
def settled (t : Timestamp) : Timestamp := ⟨t.date, t.time.settled⟩

theorem settled_eq_iff {t : Timestamp} : t.settled = t ↔ t.LeapEndsMinute := by
  obtain ⟨date, time⟩ := t
  rw [settled, Timestamp.mk.injEq]
  exact (and_iff_right rfl).trans TimeOfDay.settled_eq_iff

/-- It looks the same before and after, so no reader could tell the two apart. -/
theorem text_settled (t : Timestamp) : t.settled.text = t.text := by
  obtain ⟨hhour, hminute, hsecond, hnano⟩ := t.time.shown_settled
  simp only [text, chars, settled, hhour, hminute, hsecond, hnano]

end Timestamp

/-! ## Numbers -/

theorem isBlank_of_isDigit {c : Char} (h : isDigit c = true) : isBlank c = false := by
  have : 48 ≤ c.toNat ∧ c.toNat ≤ 57 := by
    simpa [isDigit, Char.le_def, UInt32.le_iff_toNat_le] using h
  simp only [isBlank]
  simp
  omega

namespace Timestamp

/-- The value of digits that go on from a number. -/
abbrev valueFrom (n : Nat) (ds : List Char) : Nat := ds.foldl (fun n c => n * 10 + digitValue c) n

theorem le_valueFrom (n : Nat) (ds : List Char) : n ≤ valueFrom n ds := by
  induction ds generalizing n with
  | nil => exact Nat.le_refl n
  | cons d ds ih => exact Nat.le_trans (by omega) (ih (n * 10 + digitValue d))

theorem moreDigits_cons {width : Option Nat} (hw : width ≠ some 0) {c : Char}
    (hc : isDigit c = true) {n : Nat} (small : n * 10 + digitValue c < halfWord)
    (rest : List Char) :
    moreDigits n width (c :: rest) =
      moreDigits (n * 10 + digitValue c) (width.map (· - 1)) rest := by
  rw [moreDigits.eq_def]
  split
  · contradiction
  · contradiction
  · rename_i h
    obtain ⟨rfl, rfl⟩ := List.cons.inj h
    simp [hc, small]

/-- As many digits as the width allows are read. -/
theorem moreDigits_width {ds : List Char} (h : ∀ c ∈ ds, isDigit c = true) {n : Nat}
    (small : valueFrom n ds < halfWord) (rest : List Char) :
    moreDigits n (some ds.length) (ds ++ rest) = .ok (valueFrom n ds, rest) := by
  induction ds generalizing n with
  | nil => cases rest <;> simp [moreDigits]
  | cons d ds ih =>
    have step : n * 10 + digitValue d < halfWord := Nat.lt_of_le_of_lt (le_valueFrom _ ds) small
    rw [List.cons_append, moreDigits_cons (by simp) (h d (by simp)) step]
    exact ih (fun c hc => h c (by simp [hc])) small

/-- Without a width, digits are read up to the first character that is none. -/
theorem moreDigits_all {ds : List Char} (h : ∀ c ∈ ds, isDigit c = true) {n : Nat}
    (small : valueFrom n ds < halfWord) {c : Char} (hc : isDigit c = false) (rest : List Char) :
    moreDigits n none (ds ++ c :: rest) = .ok (valueFrom n ds, c :: rest) := by
  induction ds generalizing n with
  | nil => simp [moreDigits, hc]
  | cons d ds ih =>
    have step : n * 10 + digitValue d < halfWord := Nat.lt_of_le_of_lt (le_valueFrom _ ds) small
    rw [List.cons_append, moreDigits_cons (by simp) (h d (by simp)) step]
    exact ih (fun c hc => h c (by simp [hc])) small

theorem number_append {width : Option Nat} {ds : List Char} (ne : ds ≠ [])
    (h : ∀ c ∈ ds, isDigit c = true) (rest : List Char) :
    number width (ds ++ rest) = moreDigits 0 width (ds ++ rest) := by
  cases ds with
  | nil => contradiction
  | cons d ds => simp [number, h d (by simp)]

theorem dropBlanks_append {ds : List Char} (ne : ds ≠ []) (h : ∀ c ∈ ds, isDigit c = true)
    (rest : List Char) : dropBlanks (ds ++ rest) = ds ++ rest := by
  cases ds with
  | nil => contradiction
  | cons d ds =>
    rw [List.cons_append, dropBlanks_cons_of_not (isBlank_of_isDigit (h d (by simp)))]

/-- A padded numeral that fills its width is read back. -/
theorem number_paddedDecimal {w n : Nat} (h : n < pow10 w) (hw : 1 ≤ w) (small : n < halfWord)
    (rest : List Char) : number (some w) (paddedDecimal w n ++ rest) = .ok (n, rest) := by
  have value : valueFrom 0 (paddedDecimal w n) = n := digitsValue_paddedDecimal w n
  have digits : ∀ c ∈ paddedDecimal w n, isDigit c = true := fun _ => isDigit_of_mem_paddedDecimal
  have read := moreDigits_width digits (value.symm ▸ small) rest
  rw [length_paddedDecimal h hw, value] at read
  rw [number_append (paddedDecimal_ne_nil w n) digits, read]

/-- A field of two digits is read back. -/
theorem field_paddedDecimal {low high n : Nat} (hl : low ≤ n) (hh : n ≤ high) (h : n < 100)
    (rest : List Char) : field low high (paddedDecimal 2 n ++ rest) = .ok (n, rest) := by
  rw [field, dropBlanks_append (paddedDecimal_ne_nil 2 n) (fun _ => isDigit_of_mem_paddedDecimal),
    number_paddedDecimal (show n < 100 from h) (by decide) (by rw [halfWord]; omega)]
  simp [bind, Except.bind, hl, hh]

theorem separator_self {c : Char} (h : isBlank c = false) (rest : List Char) :
    separator c (c :: rest) = .ok rest := by
  simp [separator, dropBlanks_cons_of_not h]

/-- A padded numeral is read back up to the first character that is no digit. -/
theorem number_paddedDecimal_cons (w : Nat) {n : Nat} (small : n < halfWord) {c : Char}
    (hc : isDigit c = false) (rest : List Char) :
    number none (paddedDecimal w n ++ c :: rest) = .ok (n, c :: rest) := by
  have value : valueFrom 0 (paddedDecimal w n) = n := digitsValue_paddedDecimal w n
  have digits : ∀ c ∈ paddedDecimal w n, isDigit c = true := fun _ => isDigit_of_mem_paddedDecimal
  have read := moreDigits_all digits (value.symm ▸ small) hc rest
  rw [value] at read
  rw [number_append (paddedDecimal_ne_nil w n) digits, read]

/-- A year without a sign is a number of four digits. -/
theorem year_append {ds : List Char} (ne : ds ≠ []) (h : ∀ c ∈ ds, isDigit c = true) {n : Nat}
    {rest rest' : List Char} (read : number (some 4) (ds ++ rest) = .ok (n, rest'))
    (small : n < 10000) : year (ds ++ rest) = .ok ((n : Int), rest') := by
  cases ds with
  | nil => contradiction
  | cons d ds =>
    have hd := h d (by simp)
    have minus : d ≠ '-' := by
      rintro rfl
      contradiction
    have plus : d ≠ '+' := by
      rintro rfl
      contradiction
    rw [year, dropBlanks_append ne h]
    rw [List.cons_append] at read ⊢
    split
    · rename_i hcs
      exact absurd (List.cons.inj hcs).1 minus
    · rename_i hcs
      exact absurd (List.cons.inj hcs).1 plus
    · simp only [read, bind, Except.bind, Except.map]
      rw [if_pos (by omega)]

/-- A year is read back, whatever follows that does not begin with a digit. -/
theorem year_yearText {y : Int} (low : firstYear ≤ y) (high : y ≤ lastYear) {c : Char}
    (hc : isDigit c = false) (rest : List Char) :
    year (yearText y ++ c :: rest) = .ok (y, c :: rest) := by
  rw [firstYear] at low
  rw [lastYear] at high
  have small : y.natAbs < halfWord := by
    rw [halfWord]
    omega
  rw [yearText]
  split
  · rename_i h
    have read := number_paddedDecimal (show y.toNat < pow10 4 from show y.toNat < 10000 by omega)
      (by decide) (by rw [halfWord]; omega) (c :: rest)
    rw [year_append (paddedDecimal_ne_nil 4 _) (fun _ => isDigit_of_mem_paddedDecimal) read
      (by omega), Int.toNat_of_nonneg h.1]
  · have read := number_paddedDecimal_cons 4 small hc rest
    rcases Int.lt_or_le y 0 with neg | pos
    · rw [if_pos neg, List.cons_append, year, dropBlanks_cons_of_not (by decide)]
      simp only [read, bind, Except.bind, Except.map]
      rw [if_pos (by omega)]
      congr 2
      omega
    · rw [if_neg (by omega), List.cons_append, year, dropBlanks_cons_of_not (by decide)]
      simp only [read, bind, Except.bind, Except.map]
      rw [if_pos (by omega)]
      congr 2
      omega

/-- The fraction that a point and `w` digits name. -/
theorem fraction_paddedDecimal {w n : Nat} (h : n < pow10 w) (hw : 1 ≤ w) (hw9 : w ≤ 9)
    {c : Char} (hc : isDigit c = false) (rest : List Char) :
    fraction ('.' :: (paddedDecimal w n ++ c :: rest)) = .ok (n * pow10 (9 - w), c :: rest) := by
  have len := length_paddedDecimal h hw
  have digits : ∀ d ∈ paddedDecimal w n, isDigit d = true := fun _ => isDigit_of_mem_paddedDecimal
  have value := digitsValue_paddedDecimal w n
  generalize paddedDecimal w n = ds at len digits value
  have taken : (ds ++ c :: rest).takeWhile isDigit = ds := by
    rw [List.takeWhile_append_of_pos digits]
    simp [hc]
  have dropped : (ds ++ c :: rest).dropWhile isDigit = c :: rest := by
    rw [List.dropWhile_append_of_pos digits]
    simp [hc]
  cases ds with
  | nil => simp at len; omega
  | cons d ds =>
    simp only [fraction, List.cons_append, digits d (by simp), ↓reduceIte]
    rw [← List.cons_append, taken, dropped, List.take_of_length_le (by omega), value, len]

/-- The fraction of a second is read back in front of the zone. -/
theorem fraction_fractionText {n : Nat} (h : n < nanosPerSecond) (rest : List Char) :
    fraction (fractionText n ++ 'Z' :: rest) = .ok (n, 'Z' :: rest) := by
  rw [nanosPerSecond] at h
  rw [fractionText]
  split
  · rename_i zero
    simp [fraction, eq_of_beq zero]
  split
  · rename_i milli
    have := eq_of_beq milli
    rw [List.cons_append, fraction_paddedDecimal (show n / 1000000 < 1000 by omega) (by decide)
      (by decide) (by decide), show pow10 (9 - 3) = 1000000 from rfl]
    congr 2
    omega
  split
  · rename_i micro
    have := eq_of_beq micro
    rw [List.cons_append, fraction_paddedDecimal (show n / 1000 < 1000000 by omega) (by decide)
      (by decide) (by decide), show pow10 (9 - 6) = 1000 from rfl]
    congr 2
    omega
  · rw [List.cons_append, fraction_paddedDecimal (show n < 1000000000 from h) (by decide)
      (by decide) (by decide), show pow10 (9 - 9) = 1 from rfl, Nat.mul_one]

/-! ## The whole text -/

theorem dateFields_written (d : Date) {c : Char} (rest : List Char) :
    dateFields (yearText d.year ++ '-' :: (paddedDecimal 2 d.month ++
      '-' :: (paddedDecimal 2 d.day ++ c :: rest))) =
      .ok ((d.year, d.month, d.day), c :: rest) := by
  obtain ⟨low, high, m1, m12, d1, dmax⟩ := d.isDay
  have := Nat.le_trans dmax (daysInMonth_le _ _)
  have hyphen := separator_self (c := '-') (by decide)
  have year := year_yearText low high (c := '-') (by decide)
  have month := field_paddedDecimal m1 m12 (by omega)
  have day := field_paddedDecimal d1 this (by omega)
  simp only [dateFields, year, month, day, hyphen, bind, Except.bind]

theorem timeFields_written (t : TimeOfDay) (rest : List Char) :
    timeFields (paddedDecimal 2 t.hour ++ ':' :: (paddedDecimal 2 t.minute ++
      ':' :: (paddedDecimal 2 t.shownSecond ++ (fractionText t.shownNano ++ 'Z' :: rest)))) =
      .ok ((t.hour, t.minute, t.shownSecond, t.shownNano), 'Z' :: rest) := by
  have hh := t.hour_lt
  have hm := t.minute_lt
  have hs := t.shownSecond_le
  have hour := field_paddedDecimal (Nat.zero_le t.hour) (show t.hour ≤ 23 by omega) (by omega)
  have minute := field_paddedDecimal (Nat.zero_le t.minute) (show t.minute ≤ 59 by omega) (by omega)
  have second := field_paddedDecimal (Nat.zero_le t.shownSecond) hs (by omega)
  have colon := separator_self (c := ':') (by decide)
  simp only [timeFields, hour, minute, second, colon, fraction_fractionText t.shownNano_lt, bind,
    Except.bind]

theorem ofLocal?_zero (t : Timestamp) : ofLocal? t.date t.time 0 = some t := by
  have hh := t.time.hour_lt
  have hm := t.time.minute_lt
  have inDay : 0 ≤ (t.time.minutes : Int) - 0 ∧ (t.time.minutes : Int) - 0 < 1440 := by
    simp only [TimeOfDay.minutes]
    omega
  have same : t.time.atMinute ((t.time.minutes : Int) - 0).toNat (by omega) = t.time := by
    refine TimeOfDay.ext_iff.1 ⟨?_, ?_, rfl, rfl⟩
    · simp only [TimeOfDay.atMinute, TimeOfDay.minutes]
      omega
    · simp only [TimeOfDay.atMinute, TimeOfDay.minutes]
      omega
  rw [ofLocal?, dif_pos inDay, same]

theorem instant_utc (t : Timestamp) :
    Fields.instant ⟨t.date.year, t.date.month, t.date.day, t.time.hour, t.time.minute,
      t.time.shownSecond, t.time.shownNano, 0⟩ = .ok t.settled := by
  have hd : Date.of? t.date.year t.date.month t.date.day = some t.date :=
    Date.of?_eq_some t.date.isDay
  have hlocal : ofLocal? t.date t.time.settled 0 = some t.settled := ofLocal?_zero t.settled
  rw [Fields.instant, hd, t.time.of?_shown]
  simp only [Int.natAbs_zero, Nat.zero_lt_succ, if_true, hlocal]

/-- A written timestamp is read as what it settles to. -/
theorem readChars_chars (t : Timestamp) : readChars t.chars = .ok t.settled := by
  simp only [readChars, chars, dateFields_written, bind, Except.bind, dateEnd]
  simp only [beq_self_eq_true, Bool.true_or, ↓reduceIte]
  rw [timeFields_written]
  simp only [dropBlanks_cons_of_not (c := 'Z') (by decide), zone]
  simp [isLetter, dropBlanks, instant_utc]

theorem read_text (t : Timestamp) : read t.text = .ok t.settled := by
  rw [read, text, String.toList_ofList, readChars_chars]

end Timestamp
end CatalogReplica
