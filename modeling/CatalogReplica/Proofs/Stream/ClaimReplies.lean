/-
# CatalogReplica.Proofs.Stream.ClaimReplies -- which replies a claim can be read from

A reply is a tree of values without a type, and a reader of replies has to take what it can
use and refuse the rest. Here the form of the reply to a claim is said level by level, without
the readers: a text is a text, fields are names and values in turn, an entry is an id with
fields, and the reply is a cursor with entries. Whatever lies behind the places that are
looked at may be anything. Absent are fields of an entry that has none, an entry that was
deleted, and the entries where there are none.

Each reader then comes with two facts: it succeeds exactly on its form, and what it returns
is what stands there.
-/
import CatalogReplica.Proofs.Json.Strings
import CatalogReplica.Stream.Consumer
import Mathlib.Data.List.Forall2
import Mathlib.Tactic.Tauto

namespace CatalogReplica

/-! ## Texts -/

/-- A value that is sent as this text: a bulk of its octets, or a simple text. -/
inductive Reply.IsText : Reply → String → Prop where
  | bulk (s : String) : IsText (.bulk (Octets.ofString s)) s
  | simple (s : String) : IsText (.simple s) s

theorem Reply.text?_eq_some_iff {r : Reply} {s : String} : r.text? = some s ↔ r.IsText s := by
  constructor
  · intro h
    cases r with
    | bulk bytes =>
      rw [Octets.text?_eq_some.mp h]
      exact .bulk s
    | simple text =>
      cases h
      exact .simple s
    | _ => cases h
  · intro h
    cases h with
    | bulk => exact Octets.text?_ofString s
    | simple => rfl

theorem Reply.IsText.unique {r : Reply} {s s' : String} (h : r.IsText s) (h' : r.IsText s') :
    s = s' := by
  rw [← text?_eq_some_iff] at h h'
  exact Option.some.inj (h.symm.trans h')

/-! ## Fields -/

namespace Fields

/-- The name at one of the places for names, counted from zero. -/
def NamedAt (items : List Reply) (k : Nat) (name : String) : Prop :=
  ∃ r, items[2 * k]? = some r ∧ r.IsText name

/-- Names and values in turn: there is a value to every name, and every name is a text. -/
structure Alternate (items : List Reply) : Prop where
  even : items.length % 2 = 0
  named : ∀ k r, items[2 * k]? = some r → ∃ name, r.IsText name

/-- The value that stands behind the last occurrence of a name. -/
def LastValue (items : List Reply) (name : String) (value : Reply) : Prop :=
  ∃ k, NamedAt items k name ∧ items[2 * k + 1]? = some value ∧
    ∀ j, k < j → ¬ NamedAt items j name

variable {label value : Reply} {rest : List Reply} {name : String}

theorem not_namedAt_nil (k : Nat) : ¬ NamedAt [] k name := by
  rintro ⟨r, hr, -⟩
  cases hr

theorem namedAt_zero : NamedAt (label :: value :: rest) 0 name ↔ label.IsText name := by
  constructor
  · rintro ⟨r, hr, hname⟩
    cases hr
    exact hname
  · exact fun h => ⟨label, rfl, h⟩

theorem alternate_nil : Alternate [] where
  even := rfl
  named _ _ h := by cases h

theorem not_alternate_singleton (r : Reply) : ¬ Alternate [r] := by
  intro h
  cases h.even

theorem alternate_cons :
    Alternate (label :: value :: rest) ↔ (∃ name, label.IsText name) ∧ Alternate rest := by
  constructor
  · intro h
    refine ⟨h.named 0 label rfl, ?_, fun k r hr => h.named (k + 1) r hr⟩
    have heven := h.even
    rw [List.length_cons, List.length_cons] at heven
    omega
  · rintro ⟨hlabel, hrest⟩
    constructor
    · have heven := hrest.even
      rw [List.length_cons, List.length_cons]
      omega
    · intro k r hr
      cases k with
      | zero =>
        cases hr
        exact hlabel
      | succ k => exact hrest.named k r hr

/-- The first pair counts only if its name does not come again. -/
theorem lastValue_cons {found : Reply} : LastValue (label :: value :: rest) name found ↔
    LastValue rest name found ∨
      label.IsText name ∧ value = found ∧ ∀ j, ¬ NamedAt rest j name := by
  constructor
  · rintro ⟨k, hname, hfound, hlast⟩
    cases k with
    | zero =>
      refine .inr ⟨namedAt_zero.mp hname, Option.some.inj hfound, ?_⟩
      exact fun j => hlast (j + 1) (Nat.succ_pos j)
    | succ k => exact .inl ⟨k, hname, hfound, fun j hj => hlast (j + 1) (Nat.succ_lt_succ hj)⟩
  · rintro (⟨k, hname, hfound, hlast⟩ | ⟨hname, rfl, hnone⟩)
    · refine ⟨k + 1, hname, hfound, fun j hj => ?_⟩
      cases j with
      | zero => cases hj
      | succ j => exact hlast j (Nat.lt_of_succ_lt_succ hj)
    · refine ⟨0, namedAt_zero.mpr hname, rfl, fun j hj => ?_⟩
      cases j with
      | zero => cases hj
      | succ j => exact hnone j

/-- Where a value stands behind a name, the name stands there. -/
theorem LastValue.named {found : Reply} (h : LastValue rest name found) :
    ∃ k, NamedAt rest k name := by
  obtain ⟨k, hname, -⟩ := h
  exact ⟨k, hname⟩

/-- Names and values in turn can be read, and nothing else can. -/
theorem exists_ofAlternating?_iff : ∀ (items : List Reply) (fields : Fields),
    (∃ found, ofAlternating? Reply.text? items fields = some found) ↔ Alternate items
  | [], fields => iff_of_true ⟨fields, rfl⟩ alternate_nil
  | [r], _ => by
    refine iff_of_false ?_ (not_alternate_singleton r)
    rintro ⟨found, h⟩
    cases h
  | label :: value :: rest, fields => by
    rw [alternate_cons]
    cases hlabel : label.text? with
    | none =>
      refine iff_of_false ?_ ?_
      · rintro ⟨found, h⟩
        simp [ofAlternating?, hlabel] at h
      · rintro ⟨⟨name, hname⟩, -⟩
        cases hlabel.symm.trans (Reply.text?_eq_some_iff.mpr hname)
    | some name =>
      have ih := exists_ofAlternating?_iff rest (fields.insert name value)
      rw [← ih]
      simp [ofAlternating?, hlabel, ← Reply.text?_eq_some_iff]

/-- Under a name there is the value behind its last occurrence, or else what there was. -/
theorem getElem?_ofAlternating? : ∀ {items : List Reply} {fields found : Fields},
    ofAlternating? Reply.text? items fields = some found →
      ∀ name value, found[name]? = some value ↔ LastValue items name value ∨
        (∀ k, ¬ NamedAt items k name) ∧ fields[name]? = some value
  | [], fields, found, h, name, value => by
    cases h
    constructor
    · exact fun hfound => .inr ⟨not_namedAt_nil, hfound⟩
    · rintro (hlast | ⟨-, hfound⟩)
      · obtain ⟨k, hname⟩ := hlast.named
        exact absurd hname (not_namedAt_nil k)
      · exact hfound
  | label :: stored :: rest, fields, found, h, name, value => by
    obtain ⟨key, hkey, hrest⟩ := Option.bind_eq_some_iff.mp h
    have hlabel : label.IsText key := Reply.text?_eq_some_iff.mp hkey
    have hput : (fields.insert key stored)[name]? = some value ↔
        label.IsText name ∧ stored = value ∨ ¬ label.IsText name ∧ fields[name]? = some value := by
      rw [Std.TreeMap.getElem?_insert]
      by_cases hname : key = name
      · subst hname
        simp [hlabel]
      · have hother : ¬ label.IsText name := fun h => hname (hlabel.unique h)
        simp [hname, hother]
    have hnone : (∀ k, ¬ NamedAt (label :: stored :: rest) k name) ↔
        ¬ label.IsText name ∧ ∀ k, ¬ NamedAt rest k name := by
      constructor
      · exact fun h => ⟨fun hname => h 0 (namedAt_zero.mpr hname), fun k => h (k + 1)⟩
      · rintro ⟨hfirst, hrest⟩ k
        cases k with
        | zero => exact fun hname => hfirst (namedAt_zero.mp hname)
        | succ k => exact hrest k
    rw [getElem?_ofAlternating? hrest name value, lastValue_cons, hput, hnone]
    tauto

end Fields

/-! ## Entries -/

namespace Claimed

open Fields (Alternate LastValue)

/-- Whether a value is absent. -/
def isNil : Reply → Bool
  | .nil => true
  | _ => false

/-- What can stand for the fields of an entry. -/
def IsFields (r : Reply) : Prop := r = .nil ∨ ∃ items, r = .array items ∧ Alternate items

/-- The fields that a value stands for. -/
inductive ShowsFields : Reply → Fields → Prop where
  | absent {found : Fields} (none : ∀ name : String, found[name]? = .none) : ShowsFields .nil found
  | listed {items : List Reply} {found : Fields} (alternate : Alternate items)
      (last : ∀ name value, found[name]? = some value ↔ LastValue items name value) :
      ShowsFields (.array items) found

/-- What can stand for a claimed entry: nothing, or an id with fields. -/
def IsEntry (r : Reply) : Prop :=
  r = .nil ∨ ∃ id values rest name, r = .array (id :: values :: rest) ∧ id.IsText name ∧
    IsFields values

/-- The entry that a value stands for. It was not delivered before as far as the value says. -/
inductive ShowsEntry : Reply → Entry → Prop where
  | listed {id values : Reply} {rest : List Reply} {e : Entry} (named : id.IsText e.id)
      (fields : ShowsFields values e.fields) (fresh : e.redelivered = false) :
      ShowsEntry (.array (id :: values :: rest)) e

theorem exists_fields_iff (r : Reply) : (∃ found, fields r = .ok found) ↔ IsFields r := by
  cases r with
  | nil => exact iff_of_true ⟨∅, rfl⟩ (.inl rfl)
  | array items =>
    have hiff := Fields.exists_ofAlternating?_iff items ∅
    simp only [IsFields, reduceCtorEq, false_or, Reply.array.injEq, exists_eq_left', ← hiff,
      fields]
    cases Fields.ofAlternating? Reply.text? items ∅ <;> simp
  | _ => simp [fields, IsFields]

theorem showsFields_of_eq_ok {r : Reply} {found : Fields} (h : fields r = .ok found) :
    ShowsFields r found := by
  unfold fields at h
  split at h
  case h_1 items =>
    split at h
    case h_1 hread =>
      cases h
      refine .listed ((Fields.exists_ofAlternating?_iff items ∅).mp ⟨_, hread⟩) ?_
      intro name value
      rw [Fields.getElem?_ofAlternating? hread name value]
      simp
    case h_2 => cases h
  case h_2 =>
    cases h
    exact .absent fun name => Std.TreeMap.getElem?_emptyc
  case h_3 => cases h

theorem isEntry_listed {id values : Reply} {rest : List Reply} :
    IsEntry (.array (id :: values :: rest)) ↔ (∃ name, id.IsText name) ∧ IsFields values := by
  constructor
  · rintro (h | ⟨_, _, _, name, h, hid, hfields⟩)
    · cases h
    · cases h
      exact ⟨⟨name, hid⟩, hfields⟩
  · rintro ⟨⟨name, hid⟩, hfields⟩
    exact .inr ⟨_, _, _, name, rfl, hid, hfields⟩

theorem exists_entry_iff (r : Reply) : (∃ found, entry r = .ok found) ↔ IsEntry r := by
  cases r with
  | nil => exact iff_of_true ⟨none, rfl⟩ (.inl rfl)
  | array items =>
    match items with
    | [] | [_] => simp [entry, IsEntry]
    | id :: values :: rest =>
      simp only [isEntry_listed, ← Reply.text?_eq_some_iff, ← exists_fields_iff]
      cases hid : id.text? <;> cases hfields : fields values <;>
        simp [entry, hid, hfields, Except.map]
  | _ => simp [entry, IsEntry]

theorem entry_eq_ok {r : Reply} {found : Option Entry} (h : entry r = .ok found) :
    isNil r = true ∧ found = none ∨ isNil r = false ∧ ∃ e, found = some e ∧ ShowsEntry r e := by
  unfold entry at h
  split at h
  case h_1 id values rest =>
    cases hid : id.text? with
    | none => simp [hid] at h
    | some name =>
      cases hfields : fields values with
      | error fault => simp [hid, hfields, Except.map] at h
      | ok fs =>
        simp only [hid, hfields, Except.map, Except.ok.injEq] at h
        subst h
        exact .inr ⟨rfl, _, rfl, .listed (Reply.text?_eq_some_iff.mp hid)
          (showsFields_of_eq_ok hfields) rfl⟩
  case h_2 => cases h
  case h_3 =>
    cases h
    exact .inl ⟨rfl, rfl⟩
  case h_4 => cases h

/-- A list is read if each of its items is. -/
theorem exists_entryList_iff (rs : List Reply) :
    (∃ found, entryList rs = .ok found) ↔ ∀ r ∈ rs, IsEntry r := by
  induction rs with
  | nil => exact iff_of_true ⟨[], rfl⟩ (by simp)
  | cons r rs ih =>
    rw [List.forall_mem_cons, ← ih, ← exists_entry_iff]
    cases hentry : entry r <;> cases hrest : entryList rs <;>
      simp [entryList, hentry, hrest, bind, Except.bind]

/-- The entries are the items that are not absent, in their order. -/
theorem showsEntry_of_entryList : ∀ {rs : List Reply} {es : List Entry},
    entryList rs = .ok es → List.Forall₂ ShowsEntry (rs.filter (!isNil ·)) es
  | [], es, h => by
    cases h
    exact .nil
  | r :: rs, es, h => by
    unfold entryList at h
    cases hentry : entry r with
    | error fault => simp [hentry, bind, Except.bind] at h
    | ok found =>
      cases hrest : entryList rs with
      | error fault => simp [hentry, hrest, bind, Except.bind] at h
      | ok more =>
        simp only [hentry, hrest, bind, Except.bind, Except.ok.injEq] at h
        subst h
        have ih := showsEntry_of_entryList hrest
        rcases entry_eq_ok hentry with ⟨hnil, rfl⟩ | ⟨hnil, e, rfl, hshows⟩
        · simpa [hnil] using ih
        · simpa [hnil] using ⟨hshows, ih⟩

/-! ## Replies -/

/-- What can stand for the claimed entries: nothing, or a list of what can stand for them. -/
def IsEntries (r : Reply) : Prop :=
  r = .nil ∨ ∃ items, r = .array items ∧ ∀ item ∈ items, IsEntry item

/-- A reply to a claim: a list of a cursor and then entries, which may be left out. -/
def IsAnswer (v : Reply) : Prop :=
  ∃ first rest cursor, v = .array (first :: rest) ∧ first.IsText cursor ∧
    ∀ second ∈ rest.head?, IsEntries second

/-- The items in the place for entries. -/
def entryItems : List Reply → List Reply
  | .array items :: _ => items
  | _ => []

/-- What a reply to a claim says: the text in the first place, and the entries in the second
without those that are absent. -/
def Says (v : Reply) (found : Claimed) : Prop :=
  ∃ first rest, v = .array (first :: rest) ∧ first.IsText found.cursor ∧
    List.Forall₂ ShowsEntry ((entryItems rest).filter (!isNil ·)) found.entries

theorem isAnswer_listed {first : Reply} {rest : List Reply} : IsAnswer (.array (first :: rest)) ↔
    (∃ cursor, first.IsText cursor) ∧ ∀ second ∈ rest.head?, IsEntries second := by
  constructor
  · rintro ⟨_, _, cursor, h, hfirst, hsecond⟩
    cases h
    exact ⟨⟨cursor, hfirst⟩, hsecond⟩
  · rintro ⟨⟨cursor, hfirst⟩, hsecond⟩
    exact ⟨_, _, cursor, rfl, hfirst, hsecond⟩

/-- With a cursor the rest depends on what stands for the entries. -/
theorem ofReply_listed {first : Reply} {cursor : String} (h : first.text? = some cursor)
    (rest : List Reply) : ofReply (.array (first :: rest)) =
      match rest.head? with
      | none | some .nil => .ok ⟨cursor, []⟩
      | some (.array items) => (entryList items).map fun es => ⟨cursor, es⟩
      | some _ => .error .entriesNotList := by
  cases hhead : rest.head? with
  | none => simp [ofReply, h, hhead, bind, Except.bind]
  | some second => cases second <;> simp [ofReply, h, hhead, bind, Except.bind]

theorem exists_ofReply_iff (v : Reply) : (∃ found, ofReply v = .ok found) ↔ IsAnswer v := by
  cases v with
  | array items =>
    cases items with
    | nil => simp [ofReply, IsAnswer, bind, Except.bind]
    | cons first rest =>
      rw [isAnswer_listed]
      simp only [← Reply.text?_eq_some_iff]
      cases hfirst : first.text? with
      | none => simp [ofReply, hfirst, bind, Except.bind]
      | some cursor =>
        rw [ofReply_listed hfirst]
        cases rest with
        | nil => simp
        | cons second more =>
          cases second with
          | array items =>
            have hiff := exists_entryList_iff items
            cases hlist : entryList items <;> simp [hlist, Except.map, IsEntries, ← hiff]
          | _ => simp [IsEntries]
  | _ => simp [ofReply, IsAnswer]

theorem says_of_eq_ok {v : Reply} {found : Claimed} (h : ofReply v = .ok found) :
    Says v found := by
  obtain ⟨first, rest, cursor, rfl, hfirst, -⟩ := (exists_ofReply_iff v).mp ⟨found, h⟩
  rw [ofReply_listed (Reply.text?_eq_some_iff.mpr hfirst)] at h
  refine ⟨first, rest, rfl, ?_⟩
  cases rest with
  | nil =>
    cases h
    exact ⟨hfirst, .nil⟩
  | cons second more =>
    cases second with
    | nil =>
      cases h
      exact ⟨hfirst, .nil⟩
    | array items =>
      simp only [List.head?_cons] at h
      cases hlist : entryList items with
      | error fault => simp [hlist, Except.map] at h
      | ok es =>
        simp only [hlist, Except.map, Except.ok.injEq] at h
        subst h
        exact ⟨hfirst, showsEntry_of_entryList hlist⟩
    | _ => cases h

/-- A reply that cannot be read is a fault of the reply. -/
theorem claimed_of_not_isAnswer {v : Reply} (h : ¬ IsAnswer v) (k : Consumer) :
    ∃ fault, k.claimed (.answered v) = .error (.decode (.claimReply fault)) := by
  cases hread : ofReply v with
  | ok found => exact absurd ((exists_ofReply_iff v).mp ⟨found, hread⟩) h
  | error fault =>
    refine ⟨fault, ?_⟩
    simp [Consumer.claimed, Outcome.reply, hread, bind, Except.bind]

/-- A value is read as the reply to a claim exactly if it is one: a cursor and entries, with
everything in its place. What is read off is the cursor and the entries that are not absent,
in their order, each with its id, and under every name the value that came last. Every other
value is a fault of the reply, whoever has claimed. -/
theorem reads_answers (v : Reply) :
    ((∃ found, ofReply v = .ok found) ↔ IsAnswer v) ∧
    (∀ found, ofReply v = .ok found → Says v found) ∧
    (¬ IsAnswer v → ∀ k : Consumer,
      ∃ fault, k.claimed (.answered v) = .error (.decode (.claimReply fault))) :=
  ⟨exists_ofReply_iff v, fun _ => says_of_eq_ok, claimed_of_not_isAnswer⟩

/-- A reply with an entry that was deleted, one with a repeated name, one without fields, and
values that nobody looks at. -/
def tangled : Reply :=
  .array [.simple "12-0", .array [.nil,
    .array [.bulk (Octets.ofString "5-1"), .array [.bulk (Octets.ofString "payload"), .int 1,
      .simple "payload", .bulk [0xFF]], .okay],
    .array [.simple "6-0", .nil]], .boolean true]

/-- A reply in which a name has no value. -/
def unpaired : Reply :=
  .array [.simple "0-0", .array [.array [.simple "1-0", .array [.simple "payload"]]]]

/-- The one is read, with both of its entries, and the other is refused. -/
theorem tangled_read_unpaired_refused :
    (∃ found, ofReply tangled = .ok found ∧ found.cursor = "12-0" ∧
      found.entries.map Entry.id = ["5-1", "6-0"] ∧ Says tangled found) ∧
    ¬ IsAnswer unpaired ∧
    ∃ fault, Consumer.claimed ⟨"shop:catalogs", "node", .zero, .zero, "0-0"⟩ (.answered unpaired) =
      .error (.decode (.claimReply fault)) := by
  have hread : ((ofReply tangled).toOption.map fun found =>
      (found.cursor, found.entries.map Entry.id)) = some ("12-0", ["5-1", "6-0"]) := by
    decide +kernel
  have hodd : ¬ IsAnswer unpaired := by
    rw [← (reads_answers unpaired).1]
    rintro ⟨found, h⟩
    cases h
  obtain ⟨found, hfound, hparts⟩ := Option.map_eq_some_iff.mp hread
  have hok : ofReply tangled = .ok found := by
    cases h : ofReply tangled with
    | error fault => simp [h, Except.toOption] at hfound
    | ok other =>
      rw [h] at hfound
      exact congrArg Except.ok (Option.some.inj hfound)
  refine ⟨⟨found, hok, ?_, ?_, (reads_answers tangled).2.1 found hok⟩, hodd, ?_⟩
  · exact congrArg Prod.fst hparts
  · exact congrArg Prod.snd hparts
  · exact (reads_answers unpaired).2.2 hodd _

end Claimed
end CatalogReplica
