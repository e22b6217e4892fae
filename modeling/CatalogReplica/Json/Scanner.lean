/-
# CatalogReplica.Json.Scanner -- the shape of a reader

A reader takes one value off the front of the input and hands on what follows.
The octets that JSON gives a meaning get their names here, and so does the
white space that may stand between tokens.
-/
import CatalogReplica.Json.Fault
import CatalogReplica.Text.Octets

namespace CatalogReplica.Json

/-- A reader: the value in front of an input, and the input behind it. -/
abbrev Reader (α : Type) := Octets → Except Fault (α × Octets)

/-! ## Octets with a meaning -/

def quote : UInt8 := 0x22
def backslash : UInt8 := 0x5C
def comma : UInt8 := 0x2C
def colon : UInt8 := 0x3A
def openList : UInt8 := 0x5B
def closeList : UInt8 := 0x5D
def openObject : UInt8 := 0x7B
def closeObject : UInt8 := 0x7D
def minus : UInt8 := 0x2D
def plus : UInt8 := 0x2B
def point : UInt8 := 0x2E
def zeroDigit : UInt8 := 0x30

/-- Whether an octet is one of the four white-space octets of JSON. -/
def isSpace (b : UInt8) : Bool := b == 0x20 || b == 0x0A || b == 0x09 || b == 0x0D

/-- Whether an octet is an ASCII digit. -/
def isDigitOctet (b : UInt8) : Bool := 0x30 ≤ b && b ≤ 0x39

/-- Whether an octet starts an exponent. -/
def isExponentMark (b : UInt8) : Bool := b == 0x65 || b == 0x45

/-- The input after its leading white space. -/
def dropSpaces (s : Octets) : Octets := s.dropWhile isSpace

theorem dropSpaces_cons_of_not {b : UInt8} (h : isSpace b = false) (s : Octets) :
    dropSpaces (b :: s) = b :: s := by
  simp [dropSpaces, h]

/-! ## Words -/

/-- Reads the given octets. -/
def spelling : Octets → Octets → Except Fault Octets
  | [], s => .ok s
  | _ :: _, [] => .error .endInValue
  | w :: ws, b :: s => if w == b then spelling ws s else .error .expectedLiteral

/-- Reads the colon between a key and its value. -/
def readColon (s : Octets) : Except Fault Octets :=
  match dropSpaces s with
  | [] => .error .endInObject
  | b :: s => if b == colon then .ok s else .error .expectedColon

end CatalogReplica.Json
