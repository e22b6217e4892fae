/-
# CatalogReplica.EntryId.Lemmas -- ids are read back

The text of an id names that id and no other.
-/
import CatalogReplica.EntryId
import CatalogReplica.Text.Digits.Lemmas

namespace CatalogReplica.EntryId

/-- Splitting finds the first hyphen. -/
theorem splitHyphen_append {ds : List Char} (h : ∀ c ∈ ds, (c == '-') = false)
    (rest : List Char) :
    splitHyphen (ds ++ '-' :: rest) = (ds, some rest) := by
  induction ds with
  | nil => simp [splitHyphen]
  | cons d ds ih =>
    have hd := h d (by simp)
    have := ih fun c hc => h c (by simp [hc])
    simp [splitHyphen, hd, this]

/-- An id is read back from its characters. -/
theorem readChars?_chars (i : EntryId) : readChars? i.chars = some i := by
  have hyphen : ∀ c ∈ decimal i.millis, (c == '-') = false := by
    intro c hc
    have := isDigit_of_mem_decimal hc
    cases e : c == '-' with
    | false => rfl
    | true =>
      rw [beq_iff_eq] at e
      subst e
      revert this
      decide
  simp [readChars?, chars, splitHyphen_append hyphen, natBelow?_decimal i.millis_lt,
    natBelow?_decimal i.counter_lt, of?, i.millis_lt, i.counter_lt]

/-- An id is read back from its text. -/
theorem read?_text (i : EntryId) : read? i.text = some i := by
  rw [read?, text, String.toList_ofList, readChars?_chars]

end CatalogReplica.EntryId
