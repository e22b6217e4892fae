/-
# CatalogReplica.Number.Binary64 -- floating-point numbers of 64 bits

A number is a sign and a magnitude, and a finite magnitude is `m * 2 ^ q` with
`m < 2 ^ 53` and `-1074 ≤ q ≤ 971`. Every operation takes the exact quotient
of two natural numbers and rounds it once, a half to the even neighbour, so
nothing here depends on machine arithmetic.
-/
import CatalogReplica.Text.Digits

namespace CatalogReplica

/-- A magnitude of a floating-point number. -/
inductive Magnitude where
  /-- The value `m * 2 ^ q`. -/
  | finite (m : Nat) (q : Int)
  | infinite
  deriving DecidableEq, Repr, Inhabited

/-- A floating-point number of 64 bits. -/
inductive Binary64 where
  | number (negative : Bool) (magnitude : Magnitude)
  | notANumber
  deriving DecidableEq, Repr, Inhabited

/-! ## Rounding -/

/-- The quotient rounded to the nearest natural number, a half to the even
one. -/
def roundedQuotient (num den : Nat) : Nat :=
  let low := num / den
  let twice := 2 * (num % den)
  if twice < den then low
  else if twice > den then low + 1
  else if low % 2 == 0 then low else low + 1

/-- The exponent of the highest power of two that a positive quotient
reaches. -/
def binaryOrder (num den : Nat) : Int :=
  let guess : Int := (num.log2 : Int) - (den.log2 : Int)
  let reached :=
    if 0 ≤ guess then den * pow2 guess.toNat ≤ num
    else den ≤ num * pow2 (-guess).toNat
  if reached then guess else guess - 1

namespace Magnitude

/-- The least significand of a number that is not below the normal ones, two to
the power of 52. -/
def lowestNormal : Nat := 4503599627370496

/-- Zero. -/
def zero : Magnitude := .finite 0 (-1074)

/-- The magnitude nearest to a quotient. -/
def ofRatio (num den : Nat) : Magnitude :=
  if num == 0 then zero
  else
    let order := binaryOrder num den
    let q := if order < -1022 then -1074 else order - 52
    let m :=
      if 0 ≤ q then roundedQuotient num (den * pow2 q.toNat)
      else roundedQuotient (num * pow2 (-q).toNat) den
    let (m, q) := if m == 2 * lowestNormal then (lowestNormal, q + 1) else (m, q)
    if 971 < q then .infinite else .finite m q

/-- The magnitude nearest to a natural number. -/
def ofNat (n : Nat) : Magnitude := ofRatio n 1

/-- The natural number nearest to another among those that a floating-point
number holds. -/
def nearestNat (n : Nat) : Nat :=
  let unit := pow2 (n.log2 - 52)
  roundedQuotient n unit * unit

/-- The exact value of a finite magnitude as a quotient. -/
def ratio (m : Nat) (q : Int) : Nat × Nat :=
  if 0 ≤ q then (m * pow2 q.toNat, 1) else (m, pow2 (-q).toNat)

/-- Whether a magnitude is zero. -/
def isZero : Magnitude → Bool
  | .finite m _ => m == 0
  | .infinite => false

/-- The rounded product; a product with an infinite factor is infinite. -/
def mul : Magnitude → Magnitude → Magnitude
  | .finite m q, .finite n r =>
    let (a, b) := ratio m q
    let (c, d) := ratio n r
    ofRatio (a * c) (b * d)
  | _, _ => .infinite

/-- The rounded quotient of finite magnitudes, the divisor not being zero. -/
def div : Magnitude → Magnitude → Magnitude
  | .finite m q, .finite n r =>
    let (a, b) := ratio m q
    let (c, d) := ratio n r
    ofRatio (a * d) (b * c)
  | .infinite, _ => .infinite
  | _, .infinite => zero

/-- The magnitude nearest to `10 ^ n`. -/
def powerOfTen (n : Nat) : Magnitude := ofNat (pow10 n)

/-- The magnitude nearest to `n * 10 ^ e`. Exponents far outside the range are
settled without computing the power. -/
def ofDecimal (n : Nat) (e : Int) : Magnitude :=
  let top : Int := (decimal n).length + e
  if n == 0 || top < -400 then zero
  else if 400 < top then .infinite
  else if 0 ≤ e then ofRatio (n * pow10 e.toNat) 1
  else ofRatio n (pow10 (-e).toNat)

end Magnitude

/-! ## Reading a numeral -/

namespace Binary64

/-- The digits at the front of a text, and what follows. -/
def takeDigits (cs : List Char) : List Char × List Char :=
  (cs.takeWhile isDigit, cs.dropWhile isDigit)

/-- An exponent part: the letter, an optional sign and at least one digit. A
missing part is exponent zero. -/
def exponent? : List Char → Option Int
  | [] => some 0
  | c :: rest =>
    if c != 'e' && c != 'E' then none
    else
      let (negative, digits) :=
        match rest with
        | '-' :: r => (true, r)
        | '+' :: r => (false, r)
        | r => (false, r)
      if digits.isEmpty || !digits.all isDigit then none
      else
        let n : Int := digitsValue digits
        some (if negative then -n else n)

/-- The magnitude a text names: a decimal with optional point and exponent, or
a word for infinity. -/
def magnitude? (cs : List Char) : Option Magnitude :=
  let word := String.ofList (cs.map Char.toLower)
  if word == "inf" || word == "infinity" then some .infinite
  else
    let (whole, rest) := takeDigits cs
    let (fraction, rest) :=
      match rest with
      | '.' :: r => takeDigits r
      | r => ([], r)
    if whole.isEmpty && fraction.isEmpty then none
    else
      (exponent? rest).map fun e =>
        .ofDecimal (digitsValue (whole ++ fraction)) (e - fraction.length)

/-- The number a text names, with an optional sign. -/
def read? (s : String) : Option Binary64 :=
  let (negative, cs) :=
    match s.toList with
    | '-' :: r => (true, r)
    | '+' :: r => (false, r)
    | r => (false, r)
  if String.ofList (cs.map Char.toLower) == "nan" then some .notANumber
  else (magnitude? cs).map (.number negative)

end Binary64
end CatalogReplica
