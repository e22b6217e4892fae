/-
# CatalogReplica.Time.Timestamp.Reader -- reading a timestamp

Reads date, time and zone from left to right and stops at the first fault:

    YEAR - MONTH - DAY (T | t | space) HOUR : MINUTE : SECOND [. DIGITS] ZONE

White space may stand before every number, before every separator and around
the zone. A field is checked against its own range as soon as it is read; that
the day exists, and that the instant lies in the range, is checked at the end.
-/
import CatalogReplica.Text.Blank
import CatalogReplica.Text.Digits
import CatalogReplica.Time.Timestamp

namespace CatalogReplica.Timestamp

/-- Why a text is not a timestamp. -/
inductive Fault where
  /-- The text ends where more is needed. -/
  | premature
  /-- A character that cannot stand here. -/
  | invalid
  /-- A field, or the day, that does not exist. -/
  | outOfRange
  /-- Text behind the zone. -/
  | trailing
  /-- The local time exists, its instant is outside the range. -/
  | impossible
  deriving DecidableEq, Repr

namespace Fault

/-- What a fault is called. -/
def message : Fault → String
  | premature => "premature end of input"
  | invalid => "input contains invalid characters"
  | outOfRange => "input is out of range"
  | trailing => "trailing input"
  | impossible => "no possible date and time matching input"

end Fault

/-! ## Numbers and separators -/

/-- Reads further digits, at most `width` of them, onto a number, which is held
in 63 bits and a sign. -/
def moreDigits (n : Nat) : Option Nat → List Char → Except Fault (Nat × List Char)
  | _, [] => .ok (n, [])
  | some 0, cs => .ok (n, cs)
  | width, c :: rest =>
    if isDigit c then
      let m := n * 10 + digitValue c
      if m < halfWord then moreDigits m (width.map (· - 1)) rest
      else .error .outOfRange
    else .ok (n, c :: rest)

/-- Reads a number of at least one digit, and of at most `width`. -/
def number (width : Option Nat) : List Char → Except Fault (Nat × List Char)
  | [] => .error .premature
  | c :: rest => if isDigit c then moreDigits 0 width (c :: rest) else .error .invalid

/-- Reads a number of one or two digits in a range, past white space. -/
def field (low high : Nat) (cs : List Char) : Except Fault (Nat × List Char) := do
  let (n, rest) ← number (some 2) (dropBlanks cs)
  if low ≤ n ∧ n ≤ high then .ok (n, rest) else .error .outOfRange

/-- Reads one given character, past white space. -/
def separator (c : Char) (cs : List Char) : Except Fault (List Char) :=
  match dropBlanks cs with
  | [] => .error .premature
  | d :: rest => if d == c then .ok rest else .error .invalid

/-- Reads a year: four digits at most, or any number of them behind a sign.
It has to fit into 32 bits. -/
def year (cs : List Char) : Except Fault (Int × List Char) := do
  let (y, rest) ←
    match dropBlanks cs with
    | '-' :: r => (number none r).map fun (n, rest) => (-(n : Int), rest)
    | '+' :: r => (number none r).map fun (n, rest) => ((n : Int), rest)
    | r => (number (some 4) r).map fun (n, rest) => ((n : Int), rest)
  if -2147483648 ≤ y ∧ y < 2147483648 then .ok (y, rest) else .error .outOfRange

/-! ## Fraction and zone -/

/-- Reads the nanoseconds behind a point; digits after the ninth do not
count. -/
def fraction : List Char → Except Fault (Nat × List Char)
  | '.' :: cs =>
    match cs with
    | [] => .error .premature
    | c :: _ =>
      if isDigit c then
        let digits := (cs.takeWhile isDigit).take 9
        .ok (digitsValue digits * pow10 (9 - digits.length), cs.dropWhile isDigit)
      else .error .invalid
  | cs => .ok (0, cs)

/-- Reads two digits of an offset. A character of several octets counts as
enough text. -/
def offsetDigits : List Char → Except Fault ((Nat × Nat) × List Char)
  | c :: d :: rest =>
    if isDigit c && isDigit d then .ok ((digitValue c, digitValue d), rest)
    else .error .invalid
  | [c] => if c.toNat < 0x80 then .error .premature else .error .invalid
  | [] => .error .premature

/-- Whether a character may stand between the hours and minutes of an
offset. -/
def joinsOffset (c : Char) : Bool := c == ':' || isBlank c

/-- Reads hours and minutes of an offset, in minutes. -/
def offset (cs : List Char) : Except Fault (Nat × List Char) := do
  let ((a, b), rest) ← offsetDigits cs
  let ((c, d), rest) ← offsetDigits (rest.dropWhile joinsOffset)
  if c ≤ 5 then .ok ((a * 10 + b) * 60 + (c * 10 + d), rest) else .error .outOfRange

/-- Whether a character is one of a letter's two cases. -/
def isLetter (upper c : Char) : Bool := c == upper || c == upper.toLower

/-- Reads a zone: `UTC`, `Z`, or a sign with an offset, in minutes ahead of
UTC. -/
def zone (cs : List Char) : Except Fault (Int × List Char) :=
  match cs with
  | [] => .error .premature
  | c :: rest =>
    if isLetter 'Z' c then .ok (0, rest)
    else if c == '+' then (offset rest).map fun (n, r) => ((n : Int), r)
    else if c == '-' || c.toNat == 0x2212 then
      (offset rest).map fun (n, r) => (-(n : Int), r)
    else
      match cs with
      | u :: t :: c :: rest =>
        if isLetter 'U' u && isLetter 'T' t && isLetter 'C' c then .ok (0, rest)
        else .error .invalid
      | _ => .error .invalid

/-! ## The whole text -/

/-- The fields of a written timestamp, each in its own range. -/
structure Fields where
  year : Int
  month : Nat
  day : Nat
  hour : Nat
  minute : Nat
  second : Nat
  nano : Nat
  /-- Minutes ahead of UTC. -/
  offset : Int
  deriving DecidableEq, Repr

/-- The instant that the fields name. -/
def Fields.instant (f : Fields) : Except Fault Timestamp :=
  match Date.of? f.year f.month f.day, TimeOfDay.of? f.hour f.minute f.second f.nano with
  | some date, some time =>
    if f.offset.natAbs < 1440 then
      match ofLocal? date time f.offset with
      | some t => .ok t
      | none => .error .impossible
    else .error .outOfRange
  | _, _ => .error .outOfRange

/-- Reads year, month and day. -/
def dateFields (cs : List Char) : Except Fault ((Int × Nat × Nat) × List Char) := do
  let (y, cs) ← year cs
  let cs ← separator '-' cs
  let (m, cs) ← field 1 12 cs
  let cs ← separator '-' cs
  let (d, cs) ← field 1 31 cs
  .ok ((y, m, d), cs)

/-- Reads hour, minute, second and nanosecond. -/
def timeFields (cs : List Char) : Except Fault ((Nat × Nat × Nat × Nat) × List Char) := do
  let (h, cs) ← field 0 23 cs
  let cs ← separator ':' cs
  let (m, cs) ← field 0 59 cs
  let cs ← separator ':' cs
  let (s, cs) ← field 0 60 cs
  let (n, cs) ← fraction cs
  .ok ((h, m, s, n), cs)

/-- Reads the character between date and time. -/
def dateEnd : List Char → Except Fault (List Char)
  | [] => .error .premature
  | c :: rest => if c == 'T' || c == 't' || c == ' ' then .ok rest else .error .invalid

/-- Reads a timestamp. -/
def readChars (cs : List Char) : Except Fault Timestamp := do
  let ((y, mo, d), cs) ← dateFields cs
  let cs ← dateEnd cs
  let ((h, mi, s, n), cs) ← timeFields cs
  let (z, cs) ← zone (dropBlanks cs)
  if (dropBlanks cs).isEmpty then Fields.instant ⟨y, mo, d, h, mi, s, n, z⟩
  else .error .trailing

/-- Reads a timestamp. -/
def read (s : String) : Except Fault Timestamp := readChars s.toList

end CatalogReplica.Timestamp
