/-
# CatalogReplica.Proofs.Time.Days -- the number of a day

Days are numbered from the first day of year 1, so that a later day has a greater number and
the next day the next one (`next?_eq_some_iff`, `prev?_eq_some_iff`). With the number of the
day a local time has a number of minutes, and a local time with an offset names the instant
that lies so many minutes before (`ofLocal?_of_minutes`), over the ends of days, months and
years.
-/
import CatalogReplica.Time.Timestamp
import Mathlib.Order.Basic

namespace CatalogReplica

/-! ## Years and months -/

/-- Number of days from the first of year 1 to the first of a year. -/
def daysBeforeYear (year : Int) : Int :=
  let n := year - 1
  365 * n + n / 4 - n / 100 + n / 400

/-- Number of days from the first of a year to the first of a month. -/
def daysBeforeMonth (year : Int) : Nat → Nat
  | 0 | 1 => 0
  | month + 2 => daysBeforeMonth year (month + 1) + daysInMonth year (month + 1)

theorem daysBeforeMonth_succ {year : Int} {month : Nat} (h : 1 ≤ month) :
    daysBeforeMonth year (month + 1) = daysBeforeMonth year month + daysInMonth year month := by
  obtain ⟨n, rfl⟩ := Nat.exists_eq_add_of_le' h
  rfl

theorem daysBeforeMonth_mono (year : Int) {m m' : Nat} (h : m ≤ m') :
    daysBeforeMonth year m ≤ daysBeforeMonth year m' := by
  induction h with
  | refl => exact Nat.le_refl _
  | @step n _ ih =>
    cases n with
    | zero => exact ih
    | succ n =>
      rw [daysBeforeMonth_succ (Nat.le_add_left 1 n)]
      omega

/-- Behind the twelfth month begins the next year. -/
theorem daysBeforeYear_succ (year : Int) :
    daysBeforeYear (year + 1) = daysBeforeYear year + daysBeforeMonth year 13 := by
  have hmonths : (daysBeforeMonth year 13 : Int) = if isLeapYear year then 366 else 365 := by
    cases h : isLeapYear year <;> simp [daysBeforeMonth, daysInMonth, h]
  rw [hmonths]
  simp only [daysBeforeYear, isLeapYear, Bool.and_eq_true, Bool.or_eq_true, beq_iff_eq,
    bne_iff_ne]
  split
  · omega
  · omega

theorem daysBeforeYear_mono {y y' : Int} (h : y ≤ y') : daysBeforeYear y ≤ daysBeforeYear y' := by
  simp only [daysBeforeYear]
  omega

namespace Date

/-! ## Days -/

/-- The number of a day. -/
def number (d : Date) : Int := daysBeforeYear d.year + daysBeforeMonth d.year d.month + d.day

theorem number_le_month (d : Date) :
    d.number ≤ daysBeforeYear d.year + daysBeforeMonth d.year (d.month + 1) := by
  obtain ⟨-, -, hmonth, -, -, hday⟩ := d.isDay
  rw [daysBeforeMonth_succ hmonth, number]
  omega

theorem number_le_year (d : Date) : d.number ≤ daysBeforeYear (d.year + 1) := by
  obtain ⟨-, -, -, hmonth, -, -⟩ := d.isDay
  have hle := d.number_le_month
  have hmono := daysBeforeMonth_mono d.year (show d.month + 1 ≤ 13 by omega)
  rw [daysBeforeYear_succ]
  omega

theorem lt_number (d : Date) :
    daysBeforeYear d.year + daysBeforeMonth d.year d.month < d.number := by
  obtain ⟨-, -, -, -, hday, -⟩ := d.isDay
  rw [number]
  omega

theorem number_lt_of_year_lt {d d' : Date} (h : d.year < d'.year) : d.number < d'.number := by
  have hle := d.number_le_year
  have hmono := daysBeforeYear_mono (show d.year + 1 ≤ d'.year by omega)
  have hlt := d'.lt_number
  omega

theorem number_lt_of_month_lt {d d' : Date} (hyear : d.year = d'.year) (h : d.month < d'.month) :
    d.number < d'.number := by
  have hle := d.number_le_month
  have hmono := daysBeforeMonth_mono d.year (show d.month + 1 ≤ d'.month by omega)
  have hlt := d'.lt_number
  rw [hyear] at hle hmono
  omega

/-- A number belongs to one day. -/
theorem number_inj {d d' : Date} (h : d.number = d'.number) : d = d' := by
  have hyear : d.year = d'.year := by
    rcases Int.lt_trichotomy d.year d'.year with hlt | heq | hgt
    · exact absurd h (Int.ne_of_lt (number_lt_of_year_lt hlt))
    · exact heq
    · exact absurd h.symm (Int.ne_of_lt (number_lt_of_year_lt hgt))
  have hmonth : d.month = d'.month := by
    rcases Nat.lt_trichotomy d.month d'.month with hlt | heq | hgt
    · exact absurd h (Int.ne_of_lt (number_lt_of_month_lt hyear hlt))
    · exact heq
    · exact absurd h.symm (Int.ne_of_lt (number_lt_of_month_lt hyear.symm hgt))
  have hday : d.day = d'.day := by
    rw [number, number, hyear, hmonth] at h
    omega
  obtain ⟨y, m, n, hd⟩ := d
  obtain ⟨y', m', n', hd'⟩ := d'
  simp only at hyear hmonth hday
  subst hyear hmonth hday
  rfl

theorem of?_eq_some_iff {year : Int} {month day : Nat} {d : Date} :
    of? year month day = some d ↔ d.year = year ∧ d.month = month ∧ d.day = day := by
  unfold of?
  split
  · constructor
    · intro h
      obtain rfl := Option.some.inj h
      exact ⟨rfl, rfl, rfl⟩
    · rintro ⟨rfl, rfl, rfl⟩
      rfl
  · rename_i hday
    refine iff_of_false (Option.some_ne_none d).symm ?_
    rintro ⟨rfl, rfl, rfl⟩
    exact hday d.isDay

/-- The next day has the next number. -/
theorem number_of_next? {d d' : Date} (h : d.next? = some d') : d'.number = d.number + 1 := by
  obtain ⟨-, -, hmonth, hmonth', hday, hday'⟩ := d.isDay
  unfold next? at h
  -- Within the month, into the next month, and from December into the next year.
  split_ifs at h with hlast htwelfth
  · obtain ⟨hy, hm, hd⟩ := of?_eq_some_iff.mp h
    rw [number, number, hy, hm, hd]
    omega
  · obtain ⟨hy, hm, hd⟩ := of?_eq_some_iff.mp h
    rw [number, number, hy, hm, hd, daysBeforeMonth_succ hmonth]
    omega
  · obtain ⟨hy, hm, hd⟩ := of?_eq_some_iff.mp h
    have hsucc : daysBeforeMonth d.year 13 =
        daysBeforeMonth d.year d.month + daysInMonth d.year d.month := by
      rw [← daysBeforeMonth_succ hmonth, show d.month = 12 by omega]
    rw [number, number, hy, hm, hd, daysBeforeYear_succ, hsucc,
      show daysBeforeMonth (d.year + 1) 1 = 0 from rfl]
    omega

/-- The day before has the number before. -/
theorem number_of_prev? {d d' : Date} (h : d.prev? = some d') : d'.number + 1 = d.number := by
  obtain ⟨-, -, hmonth, hmonth', hday, hday'⟩ := d.isDay
  unfold prev? at h
  split_ifs at h with hfirst hjanuary
  · obtain ⟨hy, hm, hd⟩ := of?_eq_some_iff.mp h
    rw [number, number, hy, hm, hd]
    omega
  -- Before the first of a month lies the last day of the month before, as long as there is one.
  · obtain ⟨hy, hm, hd⟩ := of?_eq_some_iff.mp h
    have hsucc : daysBeforeMonth d.year d.month =
        daysBeforeMonth d.year (d.month - 1) + daysInMonth d.year (d.month - 1) := by
      rw [← daysBeforeMonth_succ (by omega), show d.month - 1 + 1 = d.month by omega]
    rw [number, number, hy, hm, hd, hsucc]
    omega
  · obtain ⟨hy, hm, hd⟩ := of?_eq_some_iff.mp h
    have hyear := daysBeforeYear_succ (d.year - 1)
    have hsucc : daysBeforeMonth (d.year - 1) 13 =
        daysBeforeMonth (d.year - 1) 12 + daysInMonth (d.year - 1) 12 :=
      daysBeforeMonth_succ (by decide)
    have hdecember : daysInMonth (d.year - 1) 12 = 31 := rfl
    rw [show d.year - 1 + 1 = d.year by omega] at hyear
    rw [number, number, hy, hm, hd, show d.month = 1 by omega,
      show daysBeforeMonth d.year 1 = 0 from rfl]
    omega

/-- A day with another behind it has a next day. -/
theorem exists_next? {d d' : Date} (h : d.number < d'.number) : ∃ n, d.next? = some n := by
  obtain ⟨hyear, hyear', hmonth, hmonth', hday, hday'⟩ := d.isDay
  unfold next?
  split_ifs with hlast htwelfth
  · exact ⟨_, of?_eq_some ⟨hyear, hyear', hmonth, hmonth', by omega, by omega⟩⟩
  · exact ⟨_, of?_eq_some ⟨hyear, hyear', by omega, by omega, Nat.le_refl 1,
      one_le_daysInMonth _ _⟩⟩
  · have hless : d.year + 1 ≤ lastYear := by
      by_contra hend
      -- the last day of the last year has the greatest number
      have hsame : d.number = daysBeforeYear (d.year + 1) := by
        have hsucc := @daysBeforeMonth_succ d.year d.month hmonth
        rw [show d.month + 1 = 13 by omega] at hsucc
        rw [daysBeforeYear_succ, hsucc, number]
        omega
      have hle := d'.number_le_year
      have hmono := daysBeforeYear_mono (show d'.year + 1 ≤ d.year + 1 by
        have := d'.isDay.2.1
        omega)
      omega
    exact ⟨_, of?_eq_some ⟨by omega, hless, by decide, by decide, Nat.le_refl 1,
      one_le_daysInMonth _ _⟩⟩

/-- A day with another in front of it has a day before. -/
theorem exists_prev? {d d' : Date} (h : d'.number < d.number) : ∃ n, d.prev? = some n := by
  obtain ⟨hyear, hyear', hmonth, hmonth', hday, hday'⟩ := d.isDay
  unfold prev?
  split_ifs with hfirst hjanuary
  · exact ⟨_, of?_eq_some ⟨hyear, hyear', hmonth, hmonth', by omega, by omega⟩⟩
  · exact ⟨_, of?_eq_some ⟨hyear, hyear', by omega, by omega, one_le_daysInMonth _ _,
      Nat.le_refl _⟩⟩
  · have hmore : firstYear ≤ d.year - 1 := by
      by_contra hend
      -- the first day of the first year has the least number
      have hsame : d.number = daysBeforeYear d.year + 1 := by
        rw [number, show d.month = 1 by omega, show daysBeforeMonth d.year 1 = 0 from rfl]
        omega
      have hlt := d'.lt_number
      have hmono := daysBeforeYear_mono (show d.year ≤ d'.year by
        have := d'.isDay.1
        omega)
      omega
    exact ⟨_, of?_eq_some ⟨hmore, by omega, by decide, by decide, by decide, Nat.le_refl 31⟩⟩

theorem next?_eq_some_iff {d d' : Date} : d.next? = some d' ↔ d'.number = d.number + 1 := by
  refine ⟨number_of_next?, fun h => ?_⟩
  obtain ⟨n, hn⟩ := exists_next? (show d.number < d'.number by omega)
  rw [hn, number_inj ((number_of_next? hn).trans h.symm)]

theorem prev?_eq_some_iff {d d' : Date} : d.prev? = some d' ↔ d'.number + 1 = d.number := by
  refine ⟨number_of_prev?, fun h => ?_⟩
  obtain ⟨n, hn⟩ := exists_prev? (show d'.number < d.number by omega)
  have hsame : n.number = d'.number := by
    have := number_of_prev? hn
    omega
  rw [hn, number_inj hsame]

end Date

/-! ## Local times -/

namespace TimeOfDay

theorem minutes_lt (t : TimeOfDay) : t.minutes < 1440 := by
  have hhour := t.hour_lt
  have hminute := t.minute_lt
  rw [minutes]
  omega

/-- A time of day is its minute with its seconds. -/
theorem atMinute_eq {t u : TimeOfDay} {n : Nat} (h : n < 1440) (hminutes : n = u.minutes)
    (hsecond : t.second = u.second) (hnano : t.nano = u.nano) : t.atMinute n h = u := by
  have hhour := u.hour_lt
  have hminute := u.minute_lt
  refine ext_iff.mp ⟨?_, ?_, hsecond, hnano⟩
  · simp only [atMinute, hminutes, minutes]
    omega
  · simp only [atMinute, hminutes, minutes]
    omega

end TimeOfDay

namespace Timestamp

/-- The number of the minute of an instant. -/
def minuteNumber (date : Date) (time : TimeOfDay) : Int := date.number * 1440 + time.minutes

/-- A local time that is `offset` minutes ahead names the instant so many minutes before, with
the same seconds. -/
theorem ofLocal?_of_minutes {date : Date} {time : TimeOfDay} {offset : Int} {t : Timestamp}
    (hoffset : offset.natAbs < 1440)
    (hminutes : minuteNumber date time - offset = minuteNumber t.date t.time)
    (hsecond : time.second = t.time.second) (hnano : time.nano = t.time.nano) :
    ofLocal? date time offset = some t := by
  have hlocal := time.minutes_lt
  have hutc := t.time.minutes_lt
  simp only [minuteNumber] at hminutes
  simp only [ofLocal?]
  -- An offset is less than a day, so the instant is on the same day, the day before or the
  -- day after: `hoffset` excludes the branch without a result.
  split_ifs with hsame hbefore hafter
  · have hdate : date = t.date := Date.number_inj (by omega)
    rw [TimeOfDay.atMinute_eq _ (by omega) hsecond hnano, hdate]
  · have hdate : date.prev? = some t.date := Date.prev?_eq_some_iff.mpr (by omega)
    rw [hdate, Option.map_some, TimeOfDay.atMinute_eq _ (by omega) hsecond hnano]
  · have hdate : date.next? = some t.date := Date.next?_eq_some_iff.mpr (by omega)
    rw [hdate, Option.map_some, TimeOfDay.atMinute_eq _ (by omega) hsecond hnano]
  · omega

end Timestamp
end CatalogReplica
