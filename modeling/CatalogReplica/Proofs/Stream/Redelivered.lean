/-
# CatalogReplica.Proofs.Stream.Redelivered -- an entry is the same when it comes again

An entry comes to a reader on two ways, which are read by two readers that have nothing in
common but the list of names and values at the bottom: the answer to a read is a table of
tables, and that to a claim a cursor with entries. On both ways the same entry is found. All
that differs is the mark of the second delivery, which nothing that is decoded depends on.
-/
import CatalogReplica.Stream.Consumer
import CatalogReplica.Text.Octets.Lemmas
import Mathlib.Data.List.Induction

namespace CatalogReplica

/-! ## Texts -/

theorem Reply.text?_ofString (s : String) : text? (.bulk (Octets.ofString s)) = some s :=
  Octets.text?_ofString s

theorem Reply.textLike?_ofString (s : String) : textLike? (.bulk (Octets.ofString s)) = some s :=
  Octets.text?_ofString s

/-! ## Names and values -/

namespace Fields

/-- Names and values in turn, as they stand in replies. -/
def inTurn (pairs : List (String × Octets)) : List Reply :=
  pairs.flatMap fun p => [.bulk (Octets.ofString p.1), .bulk p.2]

/-- The fields that an entry with these names and values has. -/
def ofPairs (pairs : List (String × Octets)) : Fields :=
  pairs.foldl (fun fs p => fs.insert p.1 (.bulk p.2)) ∅

/-- The value that came last under a name. -/
def lastUnder (name : String) (pairs : List (String × Octets)) : Option Octets :=
  (pairs.reverse.find? (·.1 = name)).map Prod.snd

theorem lastUnder_concat (name : String) (pairs : List (String × Octets)) (p : String × Octets) :
    lastUnder name (pairs ++ [p]) = if p.1 = name then some p.2 else lastUnder name pairs := by
  unfold lastUnder
  rw [List.reverse_append, List.reverse_singleton, List.singleton_append, List.find?_cons]
  by_cases h : p.1 = name <;> simp [h]

/-- Whoever reads the octets of a text as that text gets the pairs, one after another. -/
theorem ofAlternating?_inTurn {name? : Reply → Option String}
    (hname : ∀ s, name? (.bulk (Octets.ofString s)) = some s) (pairs : List (String × Octets))
    (fields : Fields) : ofAlternating? name? (inTurn pairs) fields =
      some (pairs.foldl (fun fs p => fs.insert p.1 (.bulk p.2)) fields) := by
  induction pairs generalizing fields with
  | nil => rfl
  | cons p pairs ih =>
    have hturn : inTurn (p :: pairs) =
        .bulk (Octets.ofString p.1) :: .bulk p.2 :: inTurn pairs := rfl
    rw [hturn, ofAlternating?, hname, Option.bind_eq_bind, Option.bind_some, ih, List.foldl_cons]

theorem ofPairs_concat (pairs : List (String × Octets)) (p : String × Octets) :
    ofPairs (pairs ++ [p]) = (ofPairs pairs).insert p.1 (.bulk p.2) := by
  unfold ofPairs
  rw [List.foldl_append, List.foldl_cons, List.foldl_nil]

theorem getElem?_ofPairs (pairs : List (String × Octets)) (name : String) :
    (ofPairs pairs)[name]? = (lastUnder name pairs).map .bulk := by
  induction pairs using List.reverseRecOn with
  | nil => exact Std.TreeMap.getElem?_emptyc
  | append_singleton pairs p ih =>
    rw [ofPairs_concat, Std.TreeMap.getElem?_insert, lastUnder_concat, ih]
    by_cases h : p.1 = name <;> simp [h]

end Fields

/-! ## Entries -/

/-- The reply to a claim that has found one entry. -/
theorem Claimed.ofReply_one (e : Reply) (cursor : String) (rest : List Reply) :
    ofReply (.array (.bulk (Octets.ofString cursor) :: .array [e] :: rest)) =
      (entry e).map fun found => ⟨cursor, found.toList⟩ := by
  cases h : entry e with
  | error fault => simp [ofReply, Reply.text?_ofString, entryList, h, bind, Except.bind, Except.map]
  | ok found => simp [ofReply, Reply.text?_ofString, entryList, h, bind, Except.bind, Except.map]

/-- An entry as it stands in replies. -/
def Reply.ofEntry (id : String) (pairs : List (String × Octets)) : Reply :=
  .array [.bulk (Octets.ofString id), .array (Fields.inTurn pairs)]

namespace Consumer

/-- An entry that was never delivered. -/
theorem read_ofEntry (id : String) (pairs : List (String × Octets)) (key : String) :
    read (.answered (.array [.array [.bulk (Octets.ofString key),
      .array [Reply.ofEntry id pairs]]])) = .ok (some ⟨id, .ofPairs pairs, false⟩) := by
  have hfields : ReadReply.fields? (.array (Fields.inTurn pairs)) = some (.ofPairs pairs) :=
    Fields.ofAlternating?_inTurn Reply.textLike?_ofString pairs ∅
  simp [read, Outcome.value, Outcome.reply, bind, Except.bind, ReadReply.entry?,
    ReadReply.items?, ReadReply.pairs?, ReadReply.alternating?, ReadReply.lastValues,
    Reply.ofEntry, Reply.textLike?_ofString, hfields]

/-- An entry that has stayed unacknowledged. -/
theorem claimed_ofEntry (id : String) (pairs : List (String × Octets)) (k : Consumer)
    (cursor : String) (rest : List Reply) :
    k.claimed (.answered (.array (.bulk (Octets.ofString cursor) ::
      .array [Reply.ofEntry id pairs] :: rest))) =
      .ok (some ⟨id, .ofPairs pairs, true⟩, { k with cursor := cursor }) := by
  have hfields : Fields.ofAlternating? Reply.text? (Fields.inTurn pairs) ∅ =
      some (.ofPairs pairs) := Fields.ofAlternating?_inTurn Reply.text?_ofString pairs ∅
  have hentry : Claimed.entry (Reply.ofEntry id pairs) = .ok (some ⟨id, .ofPairs pairs, false⟩) := by
    simp [Claimed.entry, Claimed.fields, Reply.ofEntry, Reply.text?_ofString, hfields, Except.map]
  simp [claimed, Outcome.reply, bind, Except.bind, Claimed.ofReply_one, hentry, Except.map]

/-- Whatever its fields are, an entry has the same id and the same fields when it is read for
the first time and whenever it is claimed later, with the last value under each name; it
differs in the mark of the second delivery alone. So it always holds the same change, under
the same position, or fails to be decoded in the same way. -/
theorem redelivered_alike (id : String) (pairs : List (String × Octets)) :
    ∃ fields : Fields,
      (∀ name : String, fields[name]? = (Fields.lastUnder name pairs).map .bulk) ∧
      (∀ key : String, read (.answered (.array [.array [.bulk (Octets.ofString key),
        .array [Reply.ofEntry id pairs]]])) = .ok (some ⟨id, fields, false⟩)) ∧
      (∀ (k : Consumer) (cursor : String) (rest : List Reply),
        k.claimed (.answered (.array (.bulk (Octets.ofString cursor) ::
          .array [Reply.ofEntry id pairs] :: rest))) =
          .ok (some ⟨id, fields, true⟩, { k with cursor := cursor })) ∧
      Entry.decode ⟨id, fields, true⟩ = Entry.decode ⟨id, fields, false⟩ :=
  ⟨.ofPairs pairs, Fields.getElem?_ofPairs pairs, read_ofEntry id pairs,
    claimed_ofEntry id pairs, rfl⟩

end Consumer
end CatalogReplica
