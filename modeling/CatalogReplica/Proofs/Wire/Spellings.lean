/-
# CatalogReplica.Proofs.Wire.Spellings -- one change for every spelling

Other publishers need not write a change as it is written here. Whatever object text says
the change by its members is read as the change: the members may stand in any order with
others between them, keys and texts may be escaped, times may be local ones, and what has a
default may be left out (`ofOctets_of_members`). And no object is read in another way: what
is read is said by the members, each key of a change or a record standing for the one value
it comes with (`members_of_ofOctets`). So a payload has one meaning, whoever reads it.
-/
import CatalogReplica.Proofs.Time.LocalTime
import CatalogReplica.Proofs.Wire.Payloads

namespace CatalogReplica

open Json

namespace Json

/-- These octets are a string that writes this point in time as a local time. -/
def SpellsLocalTime (t : Timestamp) (v : Octets) : Prop :=
  ∃ text, SpellsText text v ∧ Timestamp.IsTimeText t text

theorem SpellsLocalTime.spellsTime {t : Timestamp} {v : Octets} (h : SpellsLocalTime t v) :
    SpellsTime t v := by
  obtain ⟨text, hv, ht⟩ := h
  exact ⟨text, hv, Timestamp.read_of_isTimeText ht⟩

theorem Holds.mono {β : Type} {P Q : β → Octets → Prop} {default b : β} {values : List Octets}
    (h : Holds P default values b) (himp : ∀ b v, P b v → Q b v) : Holds Q default values b :=
  h.imp_right fun ⟨v, hvalues, hb⟩ => ⟨v, hvalues, himp b v hb⟩

end Json

namespace Change

/-- Every spelling of a change is read as the change. -/
theorem ofOctets_of_members {c : Change} {ms : List (String × Octets)} {s : Octets}
    (hs : IsPayload ms s)
    (hc : c.HasMembers (Record.InObject SpellsLocalTime) SpellsLocalTime ms) :
    ofOctets s = .ok c := by
  have htime : ∀ t v, SpellsLocalTime t v → SpellsTime t v := fun _ _ h => h.spellsTime
  have hrecord : ∀ (r : Record) v, r.InObject SpellsLocalTime v → r.Spelled v := by
    rintro r v ⟨fs, hobject, hfs⟩
    exact .inl ⟨fs, hobject, { hfs with
      createdAt := hfs.createdAt.mono htime
      updatedAt := hfs.updatedAt.mono htime }⟩
  refine hs.ofOctets_eq_ok_iff.mpr { hc with
    record := hc.record.mono ?_
    timestamp := hc.timestamp.mono htime }
  intro o v ho
  cases o with
  | none => exact ho
  | some r => exact hrecord r v ho

/-- A spelling with foreign members, escaped letters, a default left out and a local time in the
next year. -/
theorem ofOctets_of_members_foreign :
    ofOctets (Octets.ofString (" \x7b\"x\":[\x7b\"type\":1e5\x7d]," ++
      "\"t\\u0079pe\":\"\\uD83D\\uDE00\",\"method\":\"delete\"," ++
      "\"catalog\":\x7b\"id\":\"c1\", " ++
      "\"updated_at\":\"2024-01-01T00:30:00.50+01:00\"\x7d\x7d")) =
      .ok ⟨⟨"😀"⟩, .delete, some { Record.ofId "c1" with updatedAt := ⟨⟨2023, 12, 31, by decide⟩,
        ⟨23, 30, 0, 500000000, by decide, by decide, by decide, by decide⟩⟩ }, .epoch⟩ := by
  have hx : SpellsText "x" (Octets.ofString "\"x\"") := spellsText_self (by decide +kernel)
  have htype : SpellsText "type" (Octets.ofString "\"t\\u0079pe\"") :=
    ⟨Octets.ofString "t\\u0079pe",
      .plain rfl (.hex (c := 'y') (by decide) (.plain rfl (.plain rfl .nil))), rfl⟩
  have hmethod : SpellsText "method" (Octets.ofString "\"method\"") :=
    spellsText_self (by decide +kernel)
  have hcatalog : SpellsText "catalog" (Octets.ofString "\"catalog\"") :=
    spellsText_self (by decide +kernel)
  have hid : SpellsText "id" (Octets.ofString "\"id\"") := spellsText_self (by decide +kernel)
  have hupdated : SpellsText "updated_at" (Octets.ofString "\"updated_at\"") :=
    spellsText_self (by decide +kernel)
  -- the values
  have hforeign : IsValue (Octets.ofString "[\x7b\"type\":1e5\x7d]") := by
    have hnumber : IsNumber (Octets.ofString "1e5") :=
      .inl ⟨[0x31], [0x65, 0x35], rfl, .inr ⟨0x31, [], rfl, rfl, by decide, nofun⟩,
        [], [0x65, 0x35], rfl, .inl rfl, .inr ⟨0x65, [0x35], rfl, rfl,
          .inl ⟨0x35, [], rfl, rfl, nofun⟩⟩⟩
    have hkey : SpellsText "type" (Octets.ofString "\"type\"") :=
      spellsText_self (by decide +kernel)
    exact .list isBlank_nil (.lastItem (.object isBlank_nil (.lastMember hkey.isString isBlank_nil
      isBlank_nil (.number hnumber) isBlank_nil)) isBlank_nil)
  have hdomain : SpellsText "😀" (Octets.ofString "\"\\uD83D\\uDE00\"") :=
    ⟨Octets.ofString "\\uD83D\\uDE00",
      Spells.of_pair (n := 0xD83D) (m := 0xDE00) (by decide) (by decide) rfl rfl .nil, rfl⟩
  have hdelete : SpellsText "delete" (Octets.ofString "\"delete\"") :=
    spellsText_self (by decide +kernel)
  have hname : SpellsText "c1" (Octets.ofString "\"c1\"") := spellsText_self (by decide +kernel)
  have htext : SpellsText "2024-01-01T00:30:00.50+01:00"
      (Octets.ofString "\"2024-01-01T00:30:00.50+01:00\"") := spellsText_self (by decide +kernel)
  have htime : SpellsLocalTime ⟨⟨2023, 12, 31, by decide⟩,
      ⟨23, 30, 0, 500000000, by decide, by decide, by decide, by decide⟩⟩
      (Octets.ofString "\"2024-01-01T00:30:00.50+01:00\"") :=
    ⟨_, htext, by decide, ⟨2024, 1, 1, by decide⟩,
      ⟨0, 30, 0, 500000000, by decide, by decide, by decide, by decide⟩, 60, ['5', '0'], _,
      by decide +kernel, rfl, rfl, ⟨List.all_eq_true.mp rfl, by decide +kernel⟩,
      .ahead (n := 60) (by decide), by decide +kernel⟩
  -- the record, and the whole
  have hfields := Members.cons hid isBlank_nil isBlank_nil hname.isValue isBlank_nil
    (show IsBlank [0x20] by decide +kernel)
    (.last hupdated isBlank_nil isBlank_nil htext.isValue isBlank_nil)
  have hobject := IsObject.members isBlank_nil hfields
  have hmembers := IsObject.members isBlank_nil (.cons hx isBlank_nil isBlank_nil hforeign
    isBlank_nil isBlank_nil (.cons htype isBlank_nil isBlank_nil hdomain.isValue isBlank_nil
    isBlank_nil (.cons hmethod isBlank_nil isBlank_nil hdelete.isValue isBlank_nil isBlank_nil
    (.last hcatalog isBlank_nil isBlank_nil hobject.isValue isBlank_nil))))
  refine ofOctets_of_members ⟨[0x20], _, [], by decide +kernel, hmembers, isBlank_nil,
    by decide +kernel⟩ ?_
  constructor
  case domain => exact ⟨_, by decide +kernel, hdomain⟩
  case action => exact ⟨_, by decide +kernel, .inl hdelete⟩
  case timestamp => exact .inl ⟨by decide +kernel, rfl⟩
  case record =>
    refine .inr ⟨_, by decide +kernel, _, hobject, ?_⟩
    exact ⟨.inr ⟨_, by decide +kernel, hname⟩, .inl ⟨by decide +kernel, rfl⟩,
      .inl ⟨by decide +kernel, rfl⟩, .inl ⟨by decide +kernel, rfl⟩, .inl ⟨by decide +kernel, rfl⟩,
      .inl ⟨by decide +kernel, rfl⟩, .inl ⟨by decide +kernel, rfl⟩,
      .inr ⟨_, by decide +kernel, htime⟩⟩

/-! ## No other object is read -/

/-- What the members of a change say about its record, when that is an object. -/
theorem exists_record_of_object {ms fs : List (String × Octets)} {c : Change} (h : Says ms c)
    {v : Octets} (hv : v ∈ valuesOf "catalog" ms) (hobject : IsObject fs v) :
    ∃ r, c.record = some r ∧ r.HasMembers SpellsTime fs := by
  rcases h.record with ⟨hnil, -⟩ | ⟨v', hvalues, hspelled⟩
  · rw [hnil] at hv
    exact absurd hv List.not_mem_nil
  · rw [hvalues, List.mem_singleton] at hv
    subst hv
    cases hrecord : c.record with
    | none =>
      rw [hrecord] at hspelled
      obtain rfl : v = nullWord := hspelled
      cases hobject
    | some r =>
      rw [hrecord] at hspelled
      rcases hspelled with ⟨fs', hobject', hfs⟩ | hlist
      · exact ⟨r, rfl, hobject.unique hobject' ▸ hfs⟩
      · obtain ⟨u, rfl⟩ := hlist.exists_cons
        cases hobject

theorem length_le_one_of_holds {β : Type} {P : β → Octets → Prop} {default b : β}
    {values : List Octets} (h : Holds P default values b) : values.length ≤ 1 := by
  rcases h with ⟨rfl, -⟩ | ⟨v, rfl, -⟩
  · exact Nat.zero_le 1
  · exact Nat.le_refl 1

theorem length_eq_one_of_once {β : Type} {P : β → Octets → Prop} {b : β} {values : List Octets}
    (h : Once P values b) : values.length = 1 := by
  obtain ⟨v, rfl, -⟩ := h
  rfl

/-- The keys of a record. -/
def recordKeys : List String :=
  ["id", "active", "category", "name", "desc", "value", "created_at", "updated_at"]

theorem length_le_one_of_hasMembers {r : Record} {time : Timestamp → Octets → Prop}
    {fs : List (String × Octets)} (h : r.HasMembers time fs) {key : String}
    (hkey : key ∈ recordKeys) : (valuesOf key fs).length ≤ 1 := by
  simp only [recordKeys, List.mem_cons, List.not_mem_nil, or_false] at hkey
  rcases hkey with rfl | rfl | rfl | rfl | rfl | rfl | rfl | rfl
  · exact length_le_one_of_holds h.id
  · exact length_le_one_of_holds h.active
  · exact length_le_one_of_holds h.category
  · exact length_le_one_of_holds h.name
  · exact length_le_one_of_holds h.desc
  · exact length_le_one_of_holds h.value
  · exact length_le_one_of_holds h.createdAt
  · exact length_le_one_of_holds h.updatedAt

/-- An object that is read as a change is not ambiguous. Its members are determined; among them
the domain and the action stand once, the record and the time at most once, whatever escapes
their keys are written in; and each field of the change is what its one member stands for, or
the default. The same holds of the record when that is an object. -/
theorem members_of_ofOctets {s : Octets} {c : Change} (h : ofOctets s = .ok c)
    (hroot : (dropSpaces s).head? = some openObject) :
    ∃ ms, IsPayload ms s ∧ (∀ ms', IsPayload ms' s → ms' = ms) ∧
      (valuesOf "type" ms).length = 1 ∧ (valuesOf "method" ms).length = 1 ∧
      (valuesOf "catalog" ms).length ≤ 1 ∧ (valuesOf "timestamp" ms).length ≤ 1 ∧
      c.HasMembers Record.Spelled SpellsTime ms ∧
      ∀ v ∈ valuesOf "catalog" ms, ∀ fs, IsObject fs v →
        (∀ key ∈ recordKeys, (valuesOf key fs).length ≤ 1) ∧
        ∃ r, c.record = some r ∧ r.HasMembers SpellsTime fs := by
  obtain ⟨ms, hms, hsays⟩ := exists_isPayload h hroot
  refine ⟨ms, hms, fun ms' hms' => hms'.unique hms, length_eq_one_of_once hsays.domain,
    length_eq_one_of_once hsays.action, length_le_one_of_holds hsays.record,
    length_le_one_of_holds hsays.timestamp, hsays, ?_⟩
  intro v hv fs hobject
  obtain ⟨r, hr, hfs⟩ := exists_record_of_object hsays hv hobject
  exact ⟨fun key hkey => length_le_one_of_hasMembers hfs hkey, r, hr, hfs⟩

/-- The key of the domain in an escaped spelling is counted, and one in a foreign value is not. -/
theorem members_of_ofOctets_escaped :
    ∃ ms, IsPayload ms (Octets.ofString ("\x7b\"x\":\x7b\"type\":1,\"type\":2\x7d," ++
      "\"t\\u0079pe\":\"\",\"method\":\"upsert\",\"catalog\":\x7b\"id\":\"c1\"\x7d\x7d")) ∧
      (valuesOf "type" ms).length = 1 := by
  obtain ⟨ms, hms, -, htype, -⟩ := members_of_ofOctets
    (c := ⟨⟨""⟩, .upsert, some (Record.ofId "c1"), .epoch⟩)
    (s := Octets.ofString ("\x7b\"x\":\x7b\"type\":1,\"type\":2\x7d," ++
      "\"t\\u0079pe\":\"\",\"method\":\"upsert\",\"catalog\":\x7b\"id\":\"c1\"\x7d\x7d"))
    (by decide +kernel) (by decide +kernel)
  exact ⟨ms, hms, htype⟩

/-- A key that comes again in another spelling is not accepted. -/
example : ofOctets (Octets.ofString ("\x7b\"type\":\"a\",\"method\":\"upsert\"," ++
    "\"t\\u0079pe\":\"b\"\x7d")) = .error (.repeatedMember "type") := by
  decide +kernel

end Change
end CatalogReplica
