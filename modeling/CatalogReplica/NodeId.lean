/-
# CatalogReplica.NodeId -- generated node ids

A node that is not given an id gets one made from 128 random bits, of which
six are fixed: four name the version of the id and two its variant.
-/
import CatalogReplica.Text.Digits

namespace CatalogReplica.NodeId

/-- The digits of a number in base 16, the last `width` of them. -/
def hexDigits : Nat → Nat → List Char
  | 0, _ => []
  | width + 1, n => hexDigits width (n / 16) ++ [Nat.digitChar (n % 16)]

/-- The node id made from random bits. -/
def ofBits (bits : Nat) : String :=
  let digits := hexDigits 32 bits
  let variant := Nat.digitChar (8 + bits / 1152921504606846976 % 4)
  let fixed := digits.take 12 ++ '4' :: (digits.drop 13).take 3 ++ variant :: digits.drop 17
  "catalogs_" ++ String.ofList fixed

end CatalogReplica.NodeId
