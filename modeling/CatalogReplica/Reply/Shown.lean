/-
# CatalogReplica.Reply.Shown -- replies in messages

The form in which a value is shown when it was not of the kind that was
expected.
-/
import CatalogReplica.Number.Shortest
import CatalogReplica.Reply
import CatalogReplica.Text.Quoted

namespace CatalogReplica.Reply

/-- Floating-point numbers in replies: with a point only from the fourth place
behind it up to sixteen digits before it. -/
def doubleLayout : NumeralLayout := ⟨-4, 15, false⟩

/-- Items in square brackets. -/
def bracketed (items : List String) : String :=
  "[" ++ String.intercalate ", " items ++ "]"

/-- A text or octets, as sent. -/
def bulkShown (bytes : Octets) : String :=
  match Octets.text? bytes with
  | some s => "bulk-string(\x27" ++ quoted s ++ "\x27)"
  | none =>
    "binary-data(" ++ bracketed (bytes.map fun b => String.ofList (decimal b.toNat)) ++ ")"

mutual

/-- A value as it is shown. -/
def shown : Reply → String
  | nil => "nil"
  | okay => "ok"
  | int n => "int(" ++ String.ofList (signedDecimal n) ++ ")"
  | bulk bytes => bulkShown bytes
  | simple s => "simple-string(" ++ quoted s ++ ")"
  | array items => "array(" ++ bracketed (shownItems items) ++ ")"
  | set items => "set(" ++ bracketed (shownItems items) ++ ")"
  | map items => "map(" ++ bracketed (shownPairs items) ++ ")"
  | boolean b => "boolean(" ++ (if b then "true" else "false") ++ ")"
  | double x => "double(" ++ x.shown doubleLayout ++ ")"
  | verbatim s => "verbatim-string(Text," ++ quoted s ++ ")"

/-- Values as they are shown. -/
def shownItems : List Reply → List String
  | [] => []
  | r :: rs => shown r :: shownItems rs

/-- Pairs of values as they are shown. -/
def shownPairs : List (Reply × Reply) → List String
  | [] => []
  | (k, v) :: rs => ("(" ++ shown k ++ ", " ++ shown v ++ ")") :: shownPairs rs

end

end CatalogReplica.Reply
