/-
# CatalogReplica.EntryId -- positions in the change log

The log service gives every entry an id: a time in milliseconds and a counter
within the millisecond, both of 64 bits, written as `<millis>-<counter>`. Ids
are ordered by time, then by counter.
-/
import CatalogReplica.Text.Digits

namespace CatalogReplica

/-- The id of an entry. -/
structure EntryId where
  millis : Nat
  counter : Nat
  millis_lt : millis < word
  counter_lt : counter < word
  deriving DecidableEq

namespace EntryId

/-- The position before every entry. -/
def zero : EntryId := ⟨0, 0, zero_lt_word, zero_lt_word⟩

instance : Inhabited EntryId := ⟨zero⟩

/-! ## Order -/

/-- Whether an id is not behind another. -/
def le (a b : EntryId) : Bool :=
  a.millis < b.millis || (a.millis == b.millis && a.counter ≤ b.counter)

/-- How two ids compare. -/
def compare (a b : EntryId) : Ordering :=
  (Ord.compare a.millis b.millis).then (Ord.compare a.counter b.counter)

/-- The later of two ids. -/
def max (a b : EntryId) : EntryId := if le a b then b else a

/-! ## Text -/

/-- The characters of an id. -/
def chars (i : EntryId) : List Char := decimal i.millis ++ '-' :: decimal i.counter

/-- The text of an id. -/
def text (i : EntryId) : String := String.ofList i.chars

/-- The id of these two numbers, if they fit into 64 bits. -/
def of? (millis counter : Nat) : Option EntryId :=
  if h : millis < word ∧ counter < word then some ⟨millis, counter, h.1, h.2⟩ else none

/-- The characters before the first hyphen, and those behind it if there is
one. -/
def splitHyphen : List Char → List Char × Option (List Char)
  | [] => ([], none)
  | c :: cs =>
    if c == '-' then ([], some cs)
    else
      let (before, behind) := splitHyphen cs
      (c :: before, behind)

/-- Reads an id: digits, or digits on both sides of one hyphen. A missing
counter is zero. -/
def readChars? (cs : List Char) : Option EntryId := do
  let (first, second) := splitHyphen cs
  let millis ← natBelow? word first
  let counter ← match second with
    | some ds => natBelow? word ds
    | none => some 0
  of? millis counter

/-- Reads an id. -/
def read? (s : String) : Option EntryId := readChars? s.toList

end EntryId
end CatalogReplica
