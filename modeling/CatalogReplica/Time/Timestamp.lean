/-
# CatalogReplica.Time.Timestamp -- points in time

A timestamp is a day and a time of day in UTC, to the nanosecond. A leap second
may come behind any second and is kept as such, as nanoseconds that go on behind
the full second; where it ends a minute it is shown as second 60. A local time
with an offset becomes a timestamp by moving the minutes, which reaches at most
the neighbouring day.
-/
import CatalogReplica.Time.Date
import CatalogReplica.Time.Span

namespace CatalogReplica

/-- A time of day. From a full second on, the nanoseconds are those of a leap
second behind the second. -/
structure TimeOfDay where
  hour : Nat
  minute : Nat
  second : Nat
  nano : Nat
  hour_lt : hour < 24
  minute_lt : minute < 60
  second_lt : second < 60
  nano_lt : nano < 2 * nanosPerSecond

/-- Times of day are equal when their four numbers are. -/
theorem TimeOfDay.ext_iff {a b : TimeOfDay} :
    (a.hour = b.hour ∧ a.minute = b.minute ∧ a.second = b.second ∧ a.nano = b.nano) ↔ a = b := by
  cases a
  cases b
  simp

instance : DecidableEq TimeOfDay := fun _ _ => decidable_of_iff _ TimeOfDay.ext_iff

/-- A point in time, in UTC. -/
structure Timestamp where
  date : Date
  time : TimeOfDay
  deriving DecidableEq

namespace TimeOfDay

/-- The time of day four numbers name, if there is one. Second 60 is the leap
second at the end of the minute. -/
def of? (hour minute second nano : Nat) : Option TimeOfDay :=
  if h : hour < 24 ∧ minute < 60 ∧ second ≤ 60 ∧ nano < nanosPerSecond then
    if hs : second < 60 then
      some ⟨hour, minute, second, nano, h.1, h.2.1, hs, by omega⟩
    else
      some ⟨hour, minute, 59, nanosPerSecond + nano, h.1, h.2.1, Nat.lt_add_one 59, by omega⟩
  else none

/-- Midnight. -/
def midnight : TimeOfDay := ⟨0, 0, 0, 0, by decide, by decide, by decide, by decide⟩

/-- The second as it is shown: a leap second counts as one more. -/
def shownSecond (t : TimeOfDay) : Nat :=
  if t.nano < nanosPerSecond then t.second else t.second + 1

/-- The nanoseconds as they are shown. -/
def shownNano (t : TimeOfDay) : Nat :=
  if t.nano < nanosPerSecond then t.nano else t.nano - nanosPerSecond

/-- Minutes since midnight. -/
def minutes (t : TimeOfDay) : Nat := t.hour * 60 + t.minute

/-- The same seconds at another minute of the day. -/
def atMinute (t : TimeOfDay) (n : Nat) (h : n < 1440) : TimeOfDay :=
  ⟨n / 60, n % 60, t.second, t.nano, by omega, by omega, t.second_lt, t.nano_lt⟩

end TimeOfDay

namespace Timestamp

/-- The first instant of 1970. -/
def epoch : Timestamp := ⟨Date.epoch, TimeOfDay.midnight⟩

instance : Inhabited Timestamp := ⟨epoch⟩

/-- The instant of a local time that is `offset` minutes ahead of UTC. There
is none where the day leaves the range, or where the offset is a day or
more. -/
def ofLocal? (date : Date) (time : TimeOfDay) (offset : Int) : Option Timestamp :=
  let m : Int := time.minutes - offset
  if h : 0 ≤ m ∧ m < 1440 then
    some ⟨date, time.atMinute m.toNat (by omega)⟩
  else if h : -1440 ≤ m ∧ m < 0 then
    date.prev?.map fun d => ⟨d, time.atMinute (m + 1440).toNat (by omega)⟩
  else if h : 1440 ≤ m ∧ m < 2880 then
    date.next?.map fun d => ⟨d, time.atMinute (m - 1440).toNat (by omega)⟩
  else none

end Timestamp
end CatalogReplica
