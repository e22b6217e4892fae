/-
# CatalogReplica.Time.Span -- lengths of time

A span is a number of whole seconds of 64 bits and a number of nanoseconds
below one second.
-/
import CatalogReplica.Text.Digits

namespace CatalogReplica

/-- Number of nanoseconds in a second. -/
abbrev nanosPerSecond : Nat := 1000000000

/-- A length of time. -/
structure Span where
  seconds : Nat
  nanos : Nat
  seconds_lt : seconds < word
  nanos_lt : nanos < nanosPerSecond

namespace Span

/-- Spans are equal when their seconds and their nanoseconds are. -/
theorem ext_iff {a b : Span} : (a.seconds = b.seconds ∧ a.nanos = b.nanos) ↔ a = b := by
  cases a
  cases b
  simp

instance : DecidableEq Span := fun _ _ => decidable_of_iff _ ext_iff

theorem zero_lt_nanosPerSecond : 0 < nanosPerSecond := by decide

/-- No time at all. -/
def zero : Span := ⟨0, 0, zero_lt_word, zero_lt_nanosPerSecond⟩

/-- A span of less than a thousand seconds. -/
def ofSeconds (n : Nat) (h : n < 1000) : Span :=
  ⟨n, 0, Nat.lt_trans h thousand_lt_word, zero_lt_nanosPerSecond⟩

instance : Inhabited Span := ⟨zero⟩

/-- The span of these seconds and nanoseconds, of which there may be a second
and more, unless it is too long. -/
def of? (seconds nanos : Nat) : Option Span :=
  let s := seconds + nanos / nanosPerSecond
  if h : s < word then
    some ⟨s, nanos % nanosPerSecond, h, Nat.mod_lt _ zero_lt_nanosPerSecond⟩
  else none

/-- The span in nanoseconds. -/
def totalNanos (d : Span) : Nat := d.seconds * nanosPerSecond + d.nanos

/-- The whole milliseconds of a span, in 64 bits. -/
def millis (d : Span) : Nat := (d.seconds * 1000 + d.nanos / 1000000) % word

/-- A number with a fraction of a fixed number of places, without zeros at its
end. -/
def withFraction (places whole fraction : Nat) : List Char :=
  let digits := ((paddedDecimal places fraction).reverse.dropWhile (· == '0')).reverse
  decimal whole ++ (if fraction == 0 then [] else '.' :: digits)

/-- A span in the largest unit, from nanoseconds to seconds, of which it holds
at least one. -/
def shown (d : Span) : String :=
  String.ofList <|
    if d.seconds != 0 then withFraction 9 d.seconds d.nanos ++ ['s']
    else if 1000000 ≤ d.nanos then
      withFraction 6 (d.nanos / 1000000) (d.nanos % 1000000) ++ ['m', 's']
    else if 1000 ≤ d.nanos then
      withFraction 3 (d.nanos / 1000) (d.nanos % 1000) ++ ['µ', 's']
    else decimal d.nanos ++ ['n', 's']

end Span
end CatalogReplica
