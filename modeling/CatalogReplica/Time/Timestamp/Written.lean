/-
# CatalogReplica.Time.Timestamp.Written -- the text of a timestamp

A timestamp is written in UTC as `YYYY-MM-DDTHH:MM:SSZ`, with the shortest of
0, 3, 6 or 9 fraction digits that is exact. A year outside 0..9999 carries its
sign and at least four digits. A leap second is written as the second after the
one that it comes behind, so at the end of a minute as second 60.
-/
import CatalogReplica.Text.Digits
import CatalogReplica.Time.Timestamp

namespace CatalogReplica.Timestamp

/-- The text of a year. -/
def yearText (year : Int) : List Char :=
  if 0 ≤ year ∧ year ≤ 9999 then paddedDecimal 4 year.toNat
  else (if year < 0 then '-' else '+') :: paddedDecimal 4 year.natAbs

/-- The text of the fraction of a second. -/
def fractionText (nano : Nat) : List Char :=
  if nano == 0 then []
  else if nano % 1000000 == 0 then '.' :: paddedDecimal 3 (nano / 1000000)
  else if nano % 1000 == 0 then '.' :: paddedDecimal 6 (nano / 1000)
  else '.' :: paddedDecimal 9 nano

/-- The characters of a timestamp. -/
def chars (t : Timestamp) : List Char :=
  yearText t.date.year ++ '-' :: (paddedDecimal 2 t.date.month ++
    '-' :: (paddedDecimal 2 t.date.day ++
      'T' :: (paddedDecimal 2 t.time.hour ++
        ':' :: (paddedDecimal 2 t.time.minute ++
          ':' :: (paddedDecimal 2 t.time.shownSecond ++
            (fractionText t.time.shownNano ++ ['Z']))))))

/-- The text of a timestamp. -/
def text (t : Timestamp) : String := String.ofList t.chars

end CatalogReplica.Timestamp
