/-
# CatalogReplica.Proofs.Time.LocalTime -- texts of local times

An instant may be written as a local time in any zone that is a number of whole minutes less
than a day ahead of UTC or behind it, and with any number of fraction digits that name its
nanoseconds exactly. Every such text is read as the instant (`read_of_isTimeText`). A leap
second has such texts if it ends a minute, and no text at all is read as another one
(`leapEndsMinute_of_read`).
-/
import CatalogReplica.Proofs.Runs
import CatalogReplica.Proofs.Time.Days
import CatalogReplica.Time.Timestamp.Lemmas
import Mathlib.Data.List.Basic
import Mathlib.Data.List.Induction
import Mathlib.Tactic.Ring

namespace CatalogReplica.Timestamp

/-! ## The parts of a text -/

/-- Digits that name a number of nanoseconds exactly: they may go on with zeros. -/
def IsFraction (nano : Nat) (digits : List Char) : Prop :=
  (∀ c ∈ digits, isDigit c = true) ∧ digitsValue digits * pow10 9 = nano * pow10 digits.length

/-- The fraction of a second in a text: a point and digits, or nothing. -/
def fractionChars (digits : List Char) : List Char := if digits.isEmpty then [] else '.' :: digits

/-- Hours and minutes of an offset. -/
def offsetChars (minutes : Nat) : List Char :=
  paddedDecimal 2 (minutes / 60) ++ ':' :: paddedDecimal 2 (minutes % 60)

/-- The texts of a zone that is so many minutes ahead of UTC. -/
inductive IsZone : Int → List Char → Prop
  | utc : IsZone 0 ['Z']
  | ahead {n : Nat} (h : n < 1440) : IsZone n ('+' :: offsetChars n)
  | behind {n : Nat} (h : n < 1440) : IsZone (-n) ('-' :: offsetChars n)

/-- The text of a local time, with these fraction digits and this zone. -/
def localChars (date : Date) (time : TimeOfDay) (digits zone : List Char) : List Char :=
  yearText date.year ++ '-' :: (paddedDecimal 2 date.month ++
    '-' :: (paddedDecimal 2 date.day ++
      'T' :: (paddedDecimal 2 time.hour ++
        ':' :: (paddedDecimal 2 time.minute ++
          ':' :: (paddedDecimal 2 time.shownSecond ++ (fractionChars digits ++ zone))))))

/-- A text that writes an instant as a local time. A leap second that does not end a minute has
none, as what would be its text is that of the second behind it. -/
def IsTimeText (t : Timestamp) (text : String) : Prop :=
  t.LeapEndsMinute ∧
  ∃ (date : Date) (time : TimeOfDay) (offset : Int) (digits zone : List Char),
    minuteNumber date time - offset = minuteNumber t.date t.time ∧
    time.second = t.time.second ∧ time.nano = t.time.nano ∧
    IsFraction time.shownNano digits ∧ IsZone offset zone ∧
    text = String.ofList (localChars date time digits zone)

/-! ## The fraction -/

theorem digitsValue_append (ds es : List Char) :
    digitsValue (ds ++ es) = digitsValue ds * pow10 es.length + digitsValue es := by
  induction es using List.reverseRecOn with
  | nil => simp [digitsValue, pow10]
  | append_singleton es c ih =>
    rw [← List.append_assoc, digitsValue_concat, digitsValue_concat, ih, List.length_append,
      List.length_singleton, pow10_succ]
    ring

theorem digitsValue_lt {ds : List Char} (h : ∀ c ∈ ds, isDigit c = true) :
    digitsValue ds < pow10 ds.length := by
  induction ds using List.reverseRecOn with
  | nil => decide
  | append_singleton ds c ih =>
    have hmore := ih fun d hd => h d (List.mem_append_left _ hd)
    have hc := h c (by simp)
    have hvalue : digitValue c < 10 := by
      simp only [isDigit, Bool.and_eq_true, decide_eq_true_eq, Char.le_def,
        UInt32.le_iff_toNat_le] at hc
      have hhigh : c.toNat ≤ 57 := hc.2
      rw [digitValue]
      omega
    rw [digitsValue_concat, List.length_append, List.length_singleton, pow10_succ]
    omega

theorem pow10_pos (n : Nat) : 0 < pow10 n := Nat.pow_pos (by decide)

theorem pow10_add (m n : Nat) : pow10 (m + n) = pow10 m * pow10 n := Nat.pow_add 10 m n

/-- The first nine digits of a fraction name all of it. -/
theorem IsFraction.nanos {nano : Nat} {digits : List Char} (h : IsFraction nano digits) :
    digitsValue (digits.take 9) * pow10 (9 - (digits.take 9).length) = nano := by
  obtain ⟨hdigits, hvalue⟩ := h
  rcases Nat.le_total digits.length 9 with hshort | hlong
  · rw [List.take_of_length_le hshort]
    have hsplit : pow10 9 = pow10 (9 - digits.length) * pow10 digits.length := by
      rw [← pow10_add, Nat.sub_add_cancel hshort]
    rw [hsplit, ← Nat.mul_assoc] at hvalue
    exact Nat.eq_of_mul_eq_mul_right (pow10_pos _) hvalue
  · have hlength : (digits.take 9).length = 9 := by
      rw [List.length_take]
      omega
    rw [hlength, Nat.sub_self, show pow10 0 = 1 from rfl, Nat.mul_one]
    -- what stands behind the ninth digit is less than a nanosecond
    have hrest : digitsValue (digits.drop 9) < pow10 (digits.drop 9).length :=
      digitsValue_lt fun c hc => hdigits c (List.mem_of_mem_drop hc)
    have hparts := digitsValue_append (digits.take 9) (digits.drop 9)
    rw [List.take_append_drop] at hparts
    have htotal : digits.length = (digits.drop 9).length + 9 := by
      rw [List.length_drop]
      omega
    rw [htotal, pow10_add, ← Nat.mul_assoc] at hvalue
    have hsame := Nat.eq_of_mul_eq_mul_right (pow10_pos 9) hvalue
    rw [hparts] at hsame
    generalize pow10 (digits.drop 9).length = k at hrest hsame
    have hpos : 0 < k := Nat.zero_lt_of_lt hrest
    calc digitsValue (digits.take 9)
        = (digitsValue (digits.drop 9) + digitsValue (digits.take 9) * k) / k := by
          rw [Nat.add_mul_div_right _ _ hpos, Nat.div_eq_of_lt hrest, Nat.zero_add]
      _ = nano * k / k := by rw [Nat.add_comm, hsame]
      _ = nano := Nat.mul_div_cancel nano hpos

/-- The zone begins with a character that is neither a digit nor a point. -/
theorem IsZone.exists_cons {offset : Int} {zone : List Char} (h : IsZone offset zone) :
    ∃ c rest, zone = c :: rest ∧ isDigit c = false ∧ c ≠ '.' ∧ isBlank c = false := by
  cases h with
  | utc | ahead | behind => exact ⟨_, _, rfl, by decide, by decide, by decide⟩

theorem fraction_fractionChars {nano : Nat} {digits zone : List Char} {offset : Int}
    (h : IsFraction nano digits) (hzone : IsZone offset zone) :
    fraction (fractionChars digits ++ zone) = .ok (nano, zone) := by
  obtain ⟨c, rest, rfl, hdigit, hpoint, -⟩ := hzone.exists_cons
  have hnanos := h.nanos
  cases digits with
  | nil =>
    have hzero : nano = 0 := hnanos.symm
    rw [hzero, fractionChars, List.isEmpty_nil, if_pos rfl, List.nil_append, fraction]
    rintro cs hcons
    exact hpoint (List.cons.inj hcons).1
  | cons d ds =>
    have hall := h.1
    have htaken : (d :: ds ++ c :: rest).takeWhile isDigit = d :: ds := by
      rw [List.takeWhile_append_of_pos hall]
      simp [hdigit]
    have hdropped : (d :: ds ++ c :: rest).dropWhile isDigit = c :: rest := by
      rw [List.dropWhile_append_of_pos hall]
      simp [hdigit]
    rw [List.cons_append] at htaken hdropped
    simp only [fractionChars, List.isEmpty_cons, Bool.false_eq_true, if_false, List.cons_append,
      fraction, hall d List.mem_cons_self, if_true, htaken, hdropped, hnanos]

/-! ## The zone -/

/-- A padded numeral of two digits. -/
theorem exists_two_digits {n : Nat} (h : n < 100) :
    ∃ a b, paddedDecimal 2 n = [a, b] ∧ isDigit a = true ∧ isDigit b = true ∧
      digitValue a * 10 + digitValue b = n := by
  have hlength : (paddedDecimal 2 n).length = 2 := length_paddedDecimal (w := 2) h (by decide)
  have hdigits : ∀ c ∈ paddedDecimal 2 n, isDigit c = true := fun _ => isDigit_of_mem_paddedDecimal
  have hvalue := digitsValue_paddedDecimal 2 n
  obtain ⟨a, b, hab⟩ := List.length_eq_two.mp hlength
  rw [hab] at hdigits hvalue
  refine ⟨a, b, hab, hdigits a (by simp), hdigits b (by simp), ?_⟩
  simpa [digitsValue] using hvalue

theorem offset_offsetChars {n : Nat} (h : n < 1440) : offset (offsetChars n) = .ok (n, []) := by
  obtain ⟨a, b, hab, ha, hb, hhours⟩ := exists_two_digits (n := n / 60) (by omega)
  obtain ⟨c, d, hcd, hc, hd, hminutes⟩ := exists_two_digits (n := n % 60) (by omega)
  have hsign : joinsOffset c = false := by
    have hcolon : c ≠ ':' := by
      rintro rfl
      cases hc
    simp [joinsOffset, hcolon, isBlank_of_isDigit hc]
  have hdropped : (':' :: [c, d]).dropWhile joinsOffset = [c, d] := by
    rw [List.dropWhile_cons_of_pos (by decide), List.dropWhile_cons_of_neg (by simp [hsign])]
  have htens : digitValue c ≤ 5 := by omega
  simp only [offset, offsetChars, hab, hcd, List.cons_append, List.nil_append, offsetDigits, ha, hb,
    hc, hd, Bool.and_self, if_true, bind, Except.bind, hdropped, htens, hhours, hminutes]
  congr 2
  omega

theorem zone_of_isZone {offset : Int} {cs : List Char} (h : IsZone offset cs) :
    zone cs = .ok (offset, []) := by
  cases h with
  | utc => rfl
  | ahead h => simp [zone, isLetter, offset_offsetChars h, Except.map]
  | behind h => simp [zone, isLetter, offset_offsetChars h, Except.map]

theorem IsZone.natAbs_lt {offset : Int} {cs : List Char} (h : IsZone offset cs) :
    offset.natAbs < 1440 := by
  cases h with
  | utc => decide
  | ahead h | behind h => omega

/-! ## The whole text -/

theorem timeFields_local (time : TimeOfDay) {digits zone : List Char} {offset : Int}
    (hfraction : IsFraction time.shownNano digits) (hzone : IsZone offset zone) :
    timeFields (paddedDecimal 2 time.hour ++ ':' :: (paddedDecimal 2 time.minute ++
      ':' :: (paddedDecimal 2 time.shownSecond ++ (fractionChars digits ++ zone)))) =
      .ok ((time.hour, time.minute, time.shownSecond, time.shownNano), zone) := by
  have hh := time.hour_lt
  have hm := time.minute_lt
  have hs := time.shownSecond_le
  have hour := field_paddedDecimal (Nat.zero_le time.hour) (show time.hour ≤ 23 by omega) (by omega)
  have minute := field_paddedDecimal (Nat.zero_le time.minute) (show time.minute ≤ 59 by omega)
    (by omega)
  have second := field_paddedDecimal (Nat.zero_le time.shownSecond) hs (by omega)
  have colon := separator_self (c := ':') (by decide)
  simp only [timeFields, hour, minute, second, colon, fraction_fractionChars hfraction hzone, bind,
    Except.bind]

/-- A local time is read as the instant that it names. -/
theorem readChars_localChars {t : Timestamp} {date : Date} {time : TimeOfDay} {offset : Int}
    {digits cs : List Char} (hend : t.LeapEndsMinute)
    (hminutes : minuteNumber date time - offset = minuteNumber t.date t.time)
    (hsecond : time.second = t.time.second) (hnano : time.nano = t.time.nano)
    (hfraction : IsFraction time.shownNano digits) (hzone : IsZone offset cs) :
    readChars (localChars date time digits cs) = .ok t := by
  obtain ⟨c, rest, hcons, -, -, hblank⟩ := hzone.exists_cons
  have hd : Date.of? date.year date.month date.day = some date := Date.of?_eq_some date.isDay
  have hlocal : time.LeapEndsMinute := by
    unfold TimeOfDay.LeapEndsMinute
    rw [hsecond, hnano]
    exact hend
  have ht : TimeOfDay.of? time.hour time.minute time.shownSecond time.shownNano = some time := by
    rw [time.of?_shown, TimeOfDay.settled_eq_iff.mpr hlocal]
  have hinstant : Fields.instant ⟨date.year, date.month, date.day, time.hour, time.minute,
      time.shownSecond, time.shownNano, offset⟩ = .ok t := by
    rw [Fields.instant, hd, ht]
    simp only [hzone.natAbs_lt, if_true,
      ofLocal?_of_minutes hzone.natAbs_lt hminutes hsecond hnano]
  simp only [readChars, localChars, dateFields_written, bind, Except.bind, dateEnd,
    beq_self_eq_true, Bool.true_or, if_true, timeFields_local time hfraction hzone]
  have hdrop : dropBlanks cs = cs := by rw [hcons, dropBlanks_cons_of_not hblank]
  rw [hdrop, zone_of_isZone hzone]
  exact hinstant

/-- Every text that writes an instant as a local time is read as this instant. -/
theorem read_of_isTimeText {t : Timestamp} {text : String} (h : IsTimeText t text) :
    read text = .ok t := by
  obtain ⟨hend, date, time, offset, digits, cs, hminutes, hsecond, hnano, hfraction, hzone, rfl⟩ := h
  rw [read, String.toList_ofList]
  exact readChars_localChars hend hminutes hsecond hnano hfraction hzone

/-! ## What can be read -/

theorem leapEndsMinute_of_ofLocal? {date : Date} {time : TimeOfDay} {offset : Int} {t : Timestamp}
    (htime : time.LeapEndsMinute) (h : ofLocal? date time offset = some t) :
    t.LeapEndsMinute := by
  unfold ofLocal? at h
  dsimp only at h
  split at h
  · cases h
    exact htime
  · split at h
    · obtain ⟨d, -, rfl⟩ := Option.map_eq_some_iff.mp h
      exact htime
    · split at h
      · obtain ⟨d, -, rfl⟩ := Option.map_eq_some_iff.mp h
        exact htime
      · cases h

theorem leapEndsMinute_of_instant {f : Fields} {t : Timestamp} (h : f.instant = .ok t) :
    t.LeapEndsMinute := by
  unfold Fields.instant at h
  split at h
  · rename_i time hdate htime
    split at h
    · split at h <;> cases h
      rename_i hlocal
      exact leapEndsMinute_of_ofLocal? (TimeOfDay.leapEndsMinute_of_of? htime) hlocal
    · cases h
  · cases h

/-- No text names a leap second that does not end a minute. -/
theorem leapEndsMinute_of_read {text : String} {t : Timestamp} (h : read text = .ok t) :
    t.LeapEndsMinute := by
  unfold read readChars at h
  obtain ⟨⟨⟨y, mo, d⟩, cs⟩, -, h⟩ := exists_of_bind_eq_ok h
  obtain ⟨cs, -, h⟩ := exists_of_bind_eq_ok h
  obtain ⟨⟨⟨hh, mi, s, n⟩, cs⟩, -, h⟩ := exists_of_bind_eq_ok h
  obtain ⟨⟨z, cs⟩, -, h⟩ := exists_of_bind_eq_ok h
  dsimp only at h
  split at h
  · exact leapEndsMinute_of_instant h
  · cases h

end CatalogReplica.Timestamp
