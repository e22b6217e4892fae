/-
# CatalogReplica.Json.Numeral -- JSON numbers

Numbers are only ever described, in the message that another type was
expected, but what they describe is exact: integers of 64 bits stay integers,
everything else becomes a floating-point number.

The digits are gathered into a significand of 64 bits for as long as they
fit. Digits before the point that no longer fit raise the exponent, digits
behind it are dropped, and the significand is then scaled by a power of ten in
floating point.
-/
import CatalogReplica.Json.Scanner

namespace CatalogReplica.Json

/-! ## Significand and exponent -/

/-- The value of a digit octet. -/
def digitOctetValue (b : UInt8) : Nat := b.toNat - 48

/-- Gathers digits while the significand fits into 64 bits; the digits that do
not fit are returned. -/
def gather (significand : Nat) : Octets → Nat × Octets
  | [] => (significand, [])
  | b :: s =>
    let n := significand * 10 + digitOctetValue b
    if n < word then gather n s else (significand, b :: s)

/-- Splits the digits off the front of an input. -/
def splitDigits (s : Octets) : Octets × Octets :=
  (s.takeWhile isDigitOctet, s.dropWhile isDigitOctet)

/-- The highest power of ten that scaling uses at once. -/
def scalingStep : Nat := 308

/-- Divides by a power of ten, in steps. -/
def scaleDown (m : Magnitude) (e : Nat) : Magnitude :=
  if e ≤ scalingStep then m.div (.powerOfTen e)
  else if m.isZero then m
  else scaleDown (m.div (.powerOfTen scalingStep)) (e - scalingStep)
termination_by e
decreasing_by simp [scalingStep] at *; omega

/-- Scales a significand by a power of ten. -/
def scaled (significand : Nat) (exponent : Int) : Except Fault Magnitude :=
  let m := Magnitude.ofNat significand
  if exponent < 0 then .ok (scaleDown m (-exponent).toNat)
  else if m.isZero then .ok m
  else if exponent ≤ scalingStep then
    match m.mul (.powerOfTen exponent.toNat) with
    | .infinite => .error .numberOutOfRange
    | product => .ok product
  else .error .numberOutOfRange

/-! ## The parts of a number -/

/-- Reads an exponent behind its mark, and scales. The exponent is held in 31
bits and a sign. -/
def exponentPart (significand : Nat) (start : Int) (s : Octets) :
    Except Fault (Magnitude × Octets) :=
  let (negative, s) :=
    match s with
    | b :: r => if b == plus then (false, r) else if b == minus then (true, r) else (false, s)
    | [] => (false, s)
  let (digits, rest) := splitDigits s
  if digits.isEmpty then
    .error (if rest.isEmpty then .endInValue else .invalidNumber)
  else
    let n := digits.foldl (fun n b => n * 10 + digitOctetValue b) 0
    if 2147483647 < n then
      if significand == 0 || negative then .ok (.zero, rest) else .error .numberOutOfRange
    else
      (scaled significand (if negative then start - n else start + n)).map fun m => (m, rest)

/-- Reads what may follow the digits and the fraction of a real number. -/
def realEnd (significand : Nat) (exponent : Int) (s : Octets) :
    Except Fault (Magnitude × Octets) :=
  match s with
  | b :: r =>
    if isExponentMark b then exponentPart significand exponent r
    else (scaled significand exponent).map fun m => (m, s)
  | [] => (scaled significand exponent).map fun m => (m, s)

/-- Reads a fraction behind its point. -/
def fractionPart (significand : Nat) (exponent : Int) (s : Octets) :
    Except Fault (Magnitude × Octets) :=
  let (digits, rest) := splitDigits s
  if digits.isEmpty then
    .error (if rest.isEmpty then .endInValue else .invalidNumber)
  else
    let (n, dropped) := gather significand digits
    realEnd n (exponent - (digits.length - dropped.length : Nat)) rest

/-- What an integer with a sign is described as: one that 64 bits do not
hold, and the negative zero, are floating-point numbers. -/
def integerFound (negative : Bool) (n : Nat) : Found :=
  if !negative then .integer n
  else if n == 0 || halfWord < n then .real (.number true (.ofNat n))
  else .integer (-(n : Int))

/-- Reads a number behind its sign. -/
def numberFound (negative : Bool) (s : Octets) : Except Fault (Found × Octets) :=
  let real := fun (r : Except Fault (Magnitude × Octets)) =>
    r.map fun (m, rest) => (Found.real (.number negative m), rest)
  let (digits, rest) := splitDigits s
  match digits with
  | [] => .error (if rest.isEmpty then .endInValue else .invalidNumber)
  | first :: more =>
    if first == zeroDigit && !more.isEmpty then .error .invalidNumber
    else
      let (n, left) := gather 0 digits
      let exponent : Int := left.length
      match rest with
      | b :: r =>
        if b == point then real (fractionPart n exponent r)
        else if isExponentMark b then real (exponentPart n exponent r)
        else if left.isEmpty then .ok (integerFound negative n, rest)
        else real ((scaled n exponent).map fun m => (m, rest))
      | [] =>
        if left.isEmpty then .ok (integerFound negative n, rest)
        else real ((scaled n exponent).map fun m => (m, rest))

end CatalogReplica.Json
