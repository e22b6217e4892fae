/-
# CatalogReplica.Json.Report -- what an encoder reports

A report is a text and the place it is about. Where a report is given as one
text, a place at its end is taken off and kept as two numbers:

    TEXT at line LINE column COLUMN

Line zero says that there is no place, and is not shown.
-/
import CatalogReplica.Text.Digits

namespace CatalogReplica.Json

/-- A text and the place it is about. -/
structure Report where
  text : String
  line : Nat
  column : Nat
  deriving DecidableEq, Repr

namespace Report

/-- A text without the digits at its end, and those digits. -/
def splitDigits (cs : List Char) : List Char × List Char :=
  let back := cs.reverse
  ((back.dropWhile isDigit).reverse, (back.takeWhile isDigit).reverse)

/-- What stands before an ending, if a text has this ending. -/
def before? (ending cs : List Char) : Option (List Char) :=
  if ending.isSuffixOf cs then some (cs.take (cs.length - ending.length)) else none

/-- A text that ends in a place, taken apart. Both numbers have to fit into 64
bits. -/
def placed? (cs : List Char) : Option Report := do
  let (cs, column) := splitDigits cs
  let cs ← before? [' ', 'c', 'o', 'l', 'u', 'm', 'n', ' '] cs
  let (cs, line) := splitDigits cs
  let cs ← before? [' ', 'a', 't', ' ', 'l', 'i', 'n', 'e', ' '] cs
  some ⟨String.ofList cs, ← natBelow? word line, ← natBelow? word column⟩

/-- The report that a text gives. -/
def ofText (s : String) : Report := (placed? s.toList).getD ⟨s, 0, 0⟩

/-- The wording of a report. -/
def message (r : Report) : String :=
  if r.line = 0 then r.text
  else
    r.text ++ " at line " ++ String.ofList (decimal r.line) ++ " column " ++
      String.ofList (decimal r.column)

end Report
end CatalogReplica.Json
