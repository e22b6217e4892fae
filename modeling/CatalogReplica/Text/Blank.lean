/-
# CatalogReplica.Text.Blank -- white space

The characters with the Unicode property `White_Space`, and the two uses made
of them: taking them off the ends of a text, and asking whether a text holds
anything else.
-/

namespace CatalogReplica

/-- Whether a character has the property `White_Space`. -/
def isBlank (c : Char) : Bool :=
  let n := c.toNat
  (0x09 ≤ n && n ≤ 0x0D) || n == 0x20 || n == 0x85 || n == 0xA0 || n == 0x1680 ||
  (0x2000 ≤ n && n ≤ 0x200A) || n == 0x2028 || n == 0x2029 || n == 0x202F ||
  n == 0x205F || n == 0x3000

/-- The text after its leading white space. -/
def dropBlanks (cs : List Char) : List Char := cs.dropWhile isBlank

/-- The text without white space at either end. -/
def trimBlanks (cs : List Char) : List Char :=
  ((dropBlanks cs).reverse.dropWhile isBlank).reverse

/-- Whether a text holds nothing but white space. -/
def isBlankText (s : String) : Bool := s.toList.all isBlank

theorem dropBlanks_cons_of_not {c : Char} (h : isBlank c = false) (cs : List Char) :
    dropBlanks (c :: cs) = c :: cs := by
  simp [dropBlanks, h]

end CatalogReplica
