/-
# CatalogReplica.Time.Span.Reader -- reading a length of time

A span is written as a sequence of terms, each a number and a unit, as in
`1h 30m` or `1.5s`, and is their sum. White space may stand between terms,
between a number and its unit, and between the digits of a number; it ends a
unit. The sum, and every product on the way, has to fit into 64 bits, and a
fraction has to come out whole: in nanoseconds for units up to minutes, in
seconds from hours on. A zero alone needs no unit.

Where the seconds of a sum fit and its nanoseconds make exactly one second that
does not fit any more, reading breaks off; this is not the same as a text that
cannot be read.
-/
import CatalogReplica.Text.Blank
import CatalogReplica.Text.Digits
import CatalogReplica.Time.Span

namespace CatalogReplica.Span

/-! ## Units -/

/-- The unit of a term. -/
inductive Unit where
  | nanosecond
  /-- A unit of this many nanoseconds. -/
  | nanos (size : Nat)
  /-- A unit of this many seconds, whose fractions are counted in nanoseconds. -/
  | seconds (size : Nat)
  /-- A unit of this many seconds, whose fractions are counted in seconds. -/
  | long (size : Nat)
  deriving DecidableEq, Repr

/-- The names of the units. -/
def unitNames : List (List String × Unit) := [
  (["nanos", "nsec", "ns"], .nanosecond),
  (["usec", "us", "µs"], .nanos 1000),
  (["millis", "msec", "ms"], .nanos 1000000),
  (["seconds", "second", "secs", "sec", "s"], .seconds 1),
  (["minutes", "minute", "min", "mins", "m"], .seconds 60),
  (["hours", "hour", "hr", "hrs", "h"], .long 3600),
  (["days", "day", "d"], .long 86400),
  (["weeks", "week", "wk", "wks", "w"], .long 604800),
  (["months", "month", "M"], .long 2630016),
  (["years", "year", "yr", "yrs", "y"], .long 31557600)]

/-- The unit of a name. -/
def unit? (name : String) : Option Unit :=
  (unitNames.find? fun (names, _) => names.contains name).map (·.2)

/-! ## Checked arithmetic -/

/-- Why no span was read. -/
inductive ReadFault where
  /-- The text does not spell a span, or a number on the way does not fit. -/
  | unreadable
  /-- The nanoseconds of a sum make exactly one second more than fits. -/
  | carry
  deriving DecidableEq, Repr

/-- A number, if it fits into 64 bits. -/
def checked (n : Nat) : Except ReadFault Nat := if n < word then .ok n else .error .unreadable

/-- The quotient, if it comes out whole. -/
def exactly (n d : Nat) : Except ReadFault Nat :=
  if n % d == 0 then .ok (n / d) else .error .unreadable

/-- Adds seconds and nanoseconds to a span. -/
def plus (d : Span) (seconds nanos : Nat) : Except ReadFault Span := do
  let nanos ← checked (d.nanos + nanos)
  let seconds ← checked (d.seconds + seconds)
  match of? seconds nanos with
  | some d => .ok d
  | none => .error (if nanos = nanosPerSecond then .carry else .unreadable)

/-- The fraction of a number: its digits as a number, and ten to the power of
how many there are. -/
structure Fraction where
  numerator : Nat
  denominator : Nat

/-- Adds a whole number of units. -/
def plusWhole (d : Span) (n : Nat) : Unit → Except ReadFault Span
  | .nanosecond => d.plus 0 n
  | .nanos size => do d.plus 0 (← checked (n * size))
  | .seconds size | .long size => do d.plus (← checked (n * size)) 0

/-- Adds a fraction of a unit. -/
def plusFraction (d : Span) (f : Fraction) : Unit → Except ReadFault Span
  | .nanosecond => .error .unreadable
  | .nanos size => do
    d.plus 0 (← exactly (← checked (f.numerator * size)) f.denominator)
  | .seconds size => do
    d.plus 0 (← exactly (← checked (f.numerator * (size * 1000000000))) f.denominator)
  | .long size => do
    d.plus (← exactly (← checked (f.numerator * size)) f.denominator) 0

/-- Adds a term. -/
def plusTerm (d : Span) (n : Nat) (f : Option Fraction) (name : List Char) :
    Except ReadFault Span :=
  match unit? (String.ofList name) with
  | none => .error .unreadable
  | some u => do
    let d ← d.plusWhole n u
    match f with
    | none => .ok d
    | some f => d.plusFraction f u

/-! ## Reading -/

/-- Whether a character may be part of a unit. -/
def isUnitLetter (c : Char) : Bool := c.isAlpha || c == 'µ'

/-- How far a text has been read. -/
inductive ReaderState where
  /-- A number is due. -/
  | first
  /-- A number may follow. -/
  | next
  | whole (n : Nat)
  | fraction (n : Nat) (f : Fraction)
  | unit (n : Nat) (f : Option Fraction) (name : List Char)

/-- Reads one character. -/
def readChar (c : Char) : ReaderState × Span → Except ReadFault (ReaderState × Span)
  | (.first, d) =>
    if isDigit c then .ok (.whole (digitValue c), d)
    else if isBlank c then .ok (.first, d)
    else .error .unreadable
  | (.next, d) =>
    if isDigit c then .ok (.whole (digitValue c), d)
    else if isBlank c then .ok (.next, d)
    else .error .unreadable
  | (.whole n, d) =>
    if isDigit c then (checked (n * 10 + digitValue c)).map fun n => (.whole n, d)
    else if isBlank c then .ok (.whole n, d)
    else if isUnitLetter c then .ok (.unit n none [c], d)
    else if c == '.' then .ok (.fraction n ⟨0, 1⟩, d)
    else .error .unreadable
  | (.fraction n f, d) =>
    if isDigit c then do
      let denominator ← checked (f.denominator * 10)
      let numerator ← checked (f.numerator * 10 + digitValue c)
      .ok (.fraction n ⟨numerator, denominator⟩, d)
    else if isBlank c then .ok (.fraction n f, d)
    else if isUnitLetter c && f.denominator != 1 then .ok (.unit n (some f) [c], d)
    else .error .unreadable
  | (.unit n f name, d) =>
    if isDigit c then (d.plusTerm n f name).map fun d => (.whole (digitValue c), d)
    else if isBlank c then (d.plusTerm n f name).map fun d => (.next, d)
    else if isUnitLetter c then .ok (.unit n f (name ++ [c]), d)
    else .error .unreadable

/-- What the end of the text means. -/
def readEnd : ReaderState × Span → Except ReadFault Span
  | (.next, d) => .ok d
  | (.unit n f name, d) => d.plusTerm n f name
  | (.first, _) | (.whole _, _) | (.fraction _ _, _) => .error .unreadable

/-- Reads a span. -/
def read (s : String) : Except ReadFault Span :=
  if s = "0" then .ok zero
  else do readEnd (← s.toList.foldlM (fun state c => readChar c state) (.first, zero))

end CatalogReplica.Span
