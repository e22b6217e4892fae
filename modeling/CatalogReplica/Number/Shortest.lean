/-
# CatalogReplica.Number.Shortest -- the shortest numeral that reads back

A finite magnitude is written with the fewest decimal digits that still round
to it, and of those numerals with the nearest one. The real numbers that round
to `m * 2 ^ q` form an interval around it whose ends belong to it exactly when
`m` is even; for each number of digits only the two neighbours of the value on
that decimal grid can lie inside.

How the digits are laid out is a `NumeralLayout`: which exponents are written
with a point only, and whether a positive exponent gets a sign.
-/
import CatalogReplica.Number.Binary64

namespace CatalogReplica

/-! ## Digits -/

/-- The exponent of the highest power of ten that a positive quotient
reaches. -/
def decimalOrder (num den : Nat) : Int :=
  if den ≤ num then ((decimal (num / den)).length : Int) - 1
  else
    let n := (decimal (den / num)).length
    if den ≤ num * pow10 (n - 1) then -((n : Int) - 1) else -(n : Int)

/-- The real numbers that round to one magnitude, as quotients over one
divisor. -/
structure RoundingInterval where
  low : Nat
  value : Nat
  high : Nat
  divisor : Nat
  /-- Whether the ends belong to the interval. -/
  closed : Bool

namespace RoundingInterval

/-- The interval of the magnitude `m * 2 ^ q`. -/
def ofFinite (m : Nat) (q : Int) : RoundingInterval :=
  let below := if m == Magnitude.lowestNormal && -1074 < q then 1 else 2
  let e := q - 2
  let up := if 0 ≤ e then pow2 e.toNat else 1
  let down := if 0 ≤ e then 1 else pow2 (-e).toNat
  ⟨(4 * m - below) * up, 4 * m * up, (4 * m + 2) * up, down, m % 2 == 0⟩

/-- Whether the quotient `num / den` lies in the interval. -/
def contains (i : RoundingInterval) (num den : Nat) : Bool :=
  if i.closed then i.low * den ≤ num * i.divisor && num * i.divisor ≤ i.high * den
  else i.low * den < num * i.divisor && num * i.divisor < i.high * den

/-- The multiple of `10 ^ u` in the interval that lies nearest to the value,
as its factor. -/
def onGrid? (i : RoundingInterval) (u : Int) : Option Nat :=
  let up := if 0 ≤ u then pow10 u.toNat else 1
  let down := if 0 ≤ u then 1 else pow10 (-u).toNat
  let low := i.value * down / (i.divisor * up)
  let rest := i.value * down - low * (i.divisor * up)
  let takesLow := i.contains (low * up) down
  let takesHigh := i.contains ((low + 1) * up) down
  if takesLow && takesHigh then
    if 2 * rest < i.divisor * up then some low
    else if 2 * rest > i.divisor * up then some (low + 1)
    else if low % 2 == 0 then some low else some (low + 1)
  else if takesLow then some low
  else if takesHigh then some (low + 1)
  else none

end RoundingInterval

/-- The digits of a positive magnitude without zeros at the end, and the
exponent of the first one. -/
def shortestDigits (m : Nat) (q : Int) : List Char × Int :=
  let interval := RoundingInterval.ofFinite m q
  let order := decimalOrder interval.value interval.divisor
  let grids := (List.range 17).map fun (n : Nat) => order - (n : Int)
  let hit := grids.findSome? fun u => (interval.onGrid? u).map fun n => (n, u)
  match hit with
  | some (n, u) =>
    let digits := decimal n
    ((digits.reverse.dropWhile (· == '0')).reverse, (digits.length : Int) - 1 + u)
  | none => (['0'], 0)

/-! ## Layout -/

/-- The decisions of a format for floating-point numerals. -/
structure NumeralLayout where
  /-- Lowest exponent that is written with a point only. -/
  lowest : Int
  /-- Highest exponent that is written with a point only. -/
  highest : Int
  /-- Whether a positive exponent is written with its sign. -/
  plusSign : Bool

/-- Digits with a point only; a whole number ends in a point and a zero. -/
def positional (digits : List Char) (exponent : Int) : List Char :=
  if exponent < 0 then
    ['0', '.'] ++ List.replicate (-exponent - 1).toNat '0' ++ digits
  else
    let n := exponent.toNat + 1
    let whole := digits.take n ++ List.replicate (n - digits.length) '0'
    let fraction := digits.drop n
    whole ++ '.' :: (if fraction.isEmpty then ['0'] else fraction)

/-- Digits with an exponent behind them. -/
def scientific (plusSign : Bool) (digits : List Char) (exponent : Int) : List Char :=
  let head := digits.take 1 ++ (if digits.length ≤ 1 then [] else '.' :: digits.drop 1)
  let sign := if 0 ≤ exponent && plusSign then ['+'] else []
  head ++ 'e' :: (sign ++ signedDecimal exponent)

/-- A number as its shortest numeral in a layout. -/
def Binary64.shown (layout : NumeralLayout) : Binary64 → String
  | .notANumber => "NaN"
  | .number negative magnitude =>
    let text :=
      match magnitude with
      | .infinite => "inf".toList
      | .finite m q =>
        if m == 0 then "0.0".toList
        else
          let (digits, exponent) := shortestDigits m q
          if layout.lowest ≤ exponent && exponent ≤ layout.highest then
            positional digits exponent
          else scientific layout.plusSign digits exponent
    String.ofList (if negative then '-' :: text else text)

end CatalogReplica
