/-
# CatalogReplica.Text.Digits -- decimal numerals

Reading and writing natural numbers in ten ASCII digits. Leading zeros are
read and never written.
-/

namespace CatalogReplica

/-- Whether a character is one of the ten ASCII digits. -/
def isDigit (c : Char) : Bool := '0' ≤ c && c ≤ '9'

/-- The value of a digit. -/
def digitValue (c : Char) : Nat := c.toNat - 48

/-- The value of a run of digits. -/
def digitsValue (cs : List Char) : Nat :=
  cs.foldl (fun n c => n * 10 + digitValue c) 0

/-- The decimal numeral of a natural number. -/
def decimal (n : Nat) : List Char := Nat.toDigits 10 n

/-- The decimal numeral of an integer, with a sign when it is negative. -/
def signedDecimal (i : Int) : List Char :=
  match i with
  | .ofNat n => decimal n
  | .negSucc n => '-' :: decimal (n + 1)

/-- The decimal numeral of a number, filled with zeros on the left up to a
width. -/
def paddedDecimal (width n : Nat) : List Char :=
  let ds := decimal n
  List.replicate (width - ds.length) '0' ++ ds

/-- The number a text of digits names, if it is such a text and the number
lies below a bound. -/
def natBelow? (bound : Nat) (cs : List Char) : Option Nat :=
  if cs.isEmpty || !cs.all isDigit then none
  else
    let n := digitsValue cs
    if n < bound then some n else none

/-- The bound of the numbers of 64 bits, two to the power of 64. -/
abbrev word : Nat := 18446744073709551616

theorem zero_lt_word : 0 < word := by decide

theorem thousand_lt_word : 1000 < word := by decide

/-- The bound of the numbers of 63 bits and a sign. -/
abbrev halfWord : Nat := 9223372036854775808

/-- A power of two. -/
def pow2 (n : Nat) : Nat := Nat.pow 2 n

/-- A power of ten. -/
def pow10 (n : Nat) : Nat := Nat.pow 10 n

/-- The lower-case hexadecimal numeral of a natural number. -/
def hexadecimal (n : Nat) : List Char := Nat.toDigits 16 n

/-- The value of an ASCII hexadecimal digit of either case. -/
def hexValue? (b : UInt8) : Option Nat :=
  let n := b.toNat
  if 48 ≤ n && n ≤ 57 then some (n - 48)
  else if 97 ≤ n && n ≤ 102 then some (n - 87)
  else if 65 ≤ n && n ≤ 70 then some (n - 55)
  else none

end CatalogReplica
