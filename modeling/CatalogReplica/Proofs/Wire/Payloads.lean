/-
# CatalogReplica.Proofs.Wire.Payloads -- which payloads spell a change

A payload that is an object spells a change exactly when its members do: `type` and `method`
stand once among them, `catalog` and `timestamp` at most once, and each field of the change
is what that one member stands for, or has its default where there is none. The same holds of
the record inside. The order of the members, white space, members with other keys and the
escapes in which keys and texts are written do not matter (`IsPayload.ofOctets_eq_ok_iff`).
-/
import CatalogReplica.Change.Json
import CatalogReplica.Proofs.Json.Fields

namespace CatalogReplica

open Json

namespace Record

/-! ## Records -/

/-- What the members of an object say about a record: no key of a record comes twice, and each
field is what its member stands for, or the default. How times are written is left open. -/
structure HasMembers (time : Timestamp → Octets → Prop) (r : Record)
    (ms : List (String × Octets)) : Prop where
  id : Holds SpellsText "" (valuesOf "id" ms) r.id
  active : Holds SpellsBool false (valuesOf "active" ms) r.active
  category : Holds SpellsText "" (valuesOf "category" ms) r.category
  name : Holds SpellsText "" (valuesOf "name" ms) r.name
  desc : Holds SpellsText "" (valuesOf "desc" ms) r.desc
  value : Holds SpellsText "" (valuesOf "value" ms) r.value
  createdAt : Holds time .epoch (valuesOf "created_at" ms) r.createdAt
  updatedAt : Holds time .epoch (valuesOf "updated_at" ms) r.updatedAt

/-- Every member of a record is a text, a truth value or a time. -/
theorem isRegular_shape : shape.IsRegular := by
  intro m hm p
  simp only [shape, List.mem_cons, List.not_mem_nil, or_false] at hm
  rcases hm with rfl | rfl | rfl | rfl | rfl | rfl | rfl | rfl
  · exact (Shape.takes_of (takes_text _) p).stands
  · exact (Shape.takes_of takes_bool p).stands
  · exact (Shape.takes_of (takes_text _) p).stands
  · exact (Shape.takes_of (takes_text _) p).stands
  · exact (Shape.takes_of (takes_text _) p).stands
  · exact (Shape.takes_of (takes_text _) p).stands
  · exact (Shape.takes_of takes_timestamp p).stands
  · exact (Shape.takes_of takes_timestamp p).stands

/-- The eight fields of a record. -/
structure AllFields : Prop where
  id : shape.Field "id" (·.id) SpellsText
  active : shape.Field "active" (·.active) SpellsBool
  category : shape.Field "category" (·.category) SpellsText
  name : shape.Field "name" (·.name) SpellsText
  desc : shape.Field "desc" (·.desc) SpellsText
  value : shape.Field "value" (·.value) SpellsText
  createdAt : shape.Field "created_at" (·.createdAt) SpellsTime
  updatedAt : shape.Field "updated_at" (·.updatedAt) SpellsTime

theorem allFields : AllFields := by
  refine ⟨Shape.field_of (takes_text _) rfl (fun _ _ => rfl) ?_,
    Shape.field_of takes_bool rfl (fun _ _ => rfl) ?_,
    Shape.field_of (takes_text _) rfl (fun _ _ => rfl) ?_,
    Shape.field_of (takes_text _) rfl (fun _ _ => rfl) ?_,
    Shape.field_of (takes_text _) rfl (fun _ _ => rfl) ?_,
    Shape.field_of (takes_text _) rfl (fun _ _ => rfl) ?_,
    Shape.field_of takes_timestamp rfl (fun _ _ => rfl) ?_,
    Shape.field_of takes_timestamp rfl (fun _ _ => rfl) ?_⟩
  -- a member with another key sets another place
  all_goals
    intro m hm
    simp only [shape, List.mem_cons, List.not_mem_nil, or_false] at hm
    rcases hm with rfl | rfl | rfl | rfl | rfl | rfl | rfl | rfl <;>
      first | exact .inl rfl | exact .inr (Shape.spares_of fun _ _ => rfl)

/-- What is gathered from the members of an object. -/
theorem hasMembers_of_gathered {ms : List (String × Octets)} {q : Parts}
    (h : shape.Gathered shape.start ms q) : HasMembers SpellsTime q.record ms where
  id := (h.kept allFields.id rfl).holds ""
  active := (h.kept allFields.active rfl).holds false
  category := (h.kept allFields.category rfl).holds ""
  name := (h.kept allFields.name rfl).holds ""
  desc := (h.kept allFields.desc rfl).holds ""
  value := (h.kept allFields.value rfl).holds ""
  createdAt := (h.kept allFields.createdAt rfl).holds .epoch
  updatedAt := (h.kept allFields.updatedAt rfl).holds .epoch

/-- Members that say a record are gathered, in any order. -/
theorem HasMembers.exists_gathered {r : Record} {ms : List (String × Octets)}
    (h : HasMembers SpellsTime r ms) : ∃ q, shape.Gathered shape.start ms q ∧ q.record = r := by
  have hfields : ∃ q, shape.Gathered shape.start ms q := by
    refine Shape.exists_gathered_start fun key member hfind => ?_
    obtain ⟨hm, rfl⟩ := Shape.mem_of_find hfind
    simp only [shape, List.mem_cons, List.not_mem_nil, or_false] at hm
    rcases hm with rfl | rfl | rfl | rfl | rfl | rfl | rfl | rfl
    · exact ⟨_, _, _, allFields.id, rfl, h.id.exists_once⟩
    · exact ⟨_, _, _, allFields.active, rfl, h.active.exists_once⟩
    · exact ⟨_, _, _, allFields.category, rfl, h.category.exists_once⟩
    · exact ⟨_, _, _, allFields.name, rfl, h.name.exists_once⟩
    · exact ⟨_, _, _, allFields.desc, rfl, h.desc.exists_once⟩
    · exact ⟨_, _, _, allFields.value, rfl, h.value.exists_once⟩
    · exact ⟨_, _, _, allFields.createdAt, rfl, h.createdAt.exists_once⟩
    · exact ⟨_, _, _, allFields.updatedAt, rfl, h.updatedAt.exists_once⟩
  obtain ⟨q, hq⟩ := hfields
  refine ⟨q, hq, ?_⟩
  -- each place holds what the one value under its key stands for
  have hid := hq.getD_eq allFields.id rfl h.id
  have hactive := hq.getD_eq allFields.active rfl h.active
  have hcategory := hq.getD_eq allFields.category rfl h.category
  have hname := hq.getD_eq allFields.name rfl h.name
  have hdesc := hq.getD_eq allFields.desc rfl h.desc
  have hvalue := hq.getD_eq allFields.value rfl h.value
  have hcreated := hq.getD_eq allFields.createdAt rfl h.createdAt
  have hupdated := hq.getD_eq allFields.updatedAt rfl h.updatedAt
  rw [Parts.record, hid, hactive, hcategory, hname, hdesc, hvalue, hcreated, hupdated]

/-- An object whose members say this record. -/
def InObject (time : Timestamp → Octets → Prop) (r : Record) (v : Octets) : Prop :=
  ∃ ms, IsObject ms v ∧ HasMembers time r ms

/-- An object spells a record when its members say it. -/
theorem spellsObject_iff {r : Record} {v : Octets} :
    shape.SpellsObject r v ↔ InObject SpellsTime r v := by
  constructor
  · rintro ⟨ms, q, hobject, hq, -, rfl⟩
    exact ⟨ms, hobject, hasMembers_of_gathered hq⟩
  · rintro ⟨ms, hobject, hms⟩
    obtain ⟨q, hq, rfl⟩ := hms.exists_gathered
    exact ⟨ms, q, hobject, hq, rfl, rfl⟩

/-- What a record is read from: an object with its members, or a list with its fields by
position. -/
def Spelled (r : Record) (v : Octets) : Prop := r.InObject SpellsTime v ∨ shape.SpellsList r v

theorem takes_read : Takes read Spelled :=
  (Shape.takes_read isRegular_shape).congr fun _ _ => or_congr_left spellsObject_iff

end Record

/-! ## Changes -/

/-- An action as a value: its name, or an object whose only key is the name. -/
def Action.Spelled (a : Action) (v : Octets) : Prop :=
  SpellsText a.name v ∨ IsObject [(a.name, nullWord)] v

theorem Action.lookup_known {name : String} {a : Action} :
    known.lookup name = some a ↔ a.name = name := by
  by_cases hupsert : name = "upsert"
  · subst hupsert
    cases a <;> decide
  · by_cases hdelete : name = "delete"
    · subst hdelete
      cases a <;> decide
    · refine iff_of_false ?_ ?_
      · simp [known, List.lookup_cons, beq_eq_false_iff_ne.mpr hupsert,
          beq_eq_false_iff_ne.mpr hdelete]
      · cases a with
        | upsert => exact Ne.symm hupsert
        | delete => exact Ne.symm hdelete

theorem Action.takes_read : Takes read Spelled := by
  refine (takes_choice known).congr fun a v => ?_
  simp only [SpellsChoice, lookup_known, exists_eq_left', Spelled]

namespace Change

/-- What the members of an object say about a change: its domain and its action stand once, the
record and the time at most once, and each is what its member stands for, or the default. How
records and times are written is left open. -/
structure HasMembers (record : Record → Octets → Prop) (time : Timestamp → Octets → Prop)
    (c : Change) (ms : List (String × Octets)) : Prop where
  domain : Once (fun d => SpellsText d.name) (valuesOf "type" ms) c.domain
  action : Once Action.Spelled (valuesOf "method" ms) c.action
  record : Holds (SpellsOptional record) none (valuesOf "catalog" ms) c.record
  timestamp : Holds time .epoch (valuesOf "timestamp" ms) c.timestamp

/-- What the members say, records and times being written as they are read. -/
abbrev Says (ms : List (String × Octets)) (c : Change) : Prop :=
  c.HasMembers Record.Spelled SpellsTime ms

theorem takes_domain : Takes Domain.read fun d => SpellsText d.name := by
  refine ((takes_text "a string").map Domain.mk).congr fun d v => ⟨?_, fun h => ⟨d.name, h, rfl⟩⟩
  rintro ⟨name, h, rfl⟩
  exact h

theorem takes_record : Takes (readOptional Record.read) (SpellsOptional Record.Spelled) := by
  refine takes_optional Record.takes_read ?_
  rintro r b t (⟨ms, hobject, -⟩ | hlist) rfl
  · cases hobject
  · obtain ⟨u, hu⟩ := hlist.exists_cons
    cases hu

/-- Every member of a change is a domain, an action, a record or a time. -/
theorem isRegular_shape : shape.IsRegular := by
  intro m hm p
  simp only [shape, List.mem_cons, List.not_mem_nil, or_false] at hm
  rcases hm with rfl | rfl | rfl | rfl
  · exact (Shape.takes_of takes_domain p).stands
  · exact (Shape.takes_of Action.takes_read p).stands
  · exact (Shape.takes_of takes_record p).stands
  · exact (Shape.takes_of takes_timestamp p).stands

/-- The four fields of a change. -/
structure AllFields : Prop where
  domain : shape.Field "type" (·.domain) fun d => SpellsText d.name
  action : shape.Field "method" (·.action) Action.Spelled
  record : shape.Field "catalog" (·.record) (SpellsOptional Record.Spelled)
  timestamp : shape.Field "timestamp" (·.timestamp) SpellsTime

theorem allFields : AllFields := by
  refine ⟨Shape.field_of takes_domain rfl (fun _ _ => rfl) ?_,
    Shape.field_of Action.takes_read rfl (fun _ _ => rfl) ?_,
    Shape.field_of takes_record rfl (fun _ _ => rfl) ?_,
    Shape.field_of takes_timestamp rfl (fun _ _ => rfl) ?_⟩
  -- a member with another key sets another place
  all_goals
    intro m hm
    simp only [shape, List.mem_cons, List.not_mem_nil, or_false] at hm
    rcases hm with rfl | rfl | rfl | rfl <;>
      first | exact .inl rfl | exact .inr (Shape.spares_of fun _ _ => rfl)

/-- What is gathered from the members of an object, once nothing is missing. -/
theorem hasMembers_of_gathered {ms : List (String × Octets)} {q : Parts}
    (h : shape.Gathered shape.start ms q) (hcomplete : shape.missing q = []) :
    Says ms q.change := by
  have hrequired : ∀ m ∈ shape.members, m.isRequired = true → m.isPresent q = true := by
    intro m hm hrequired
    by_contra habsent
    have hmissing : m.key ∈ shape.missing q :=
      List.mem_map_of_mem (List.mem_filter.mpr ⟨hm, by simp [hrequired, habsent]⟩)
    rw [hcomplete] at hmissing
    exact absurd hmissing List.not_mem_nil
  obtain ⟨d, hd⟩ := Option.isSome_iff_exists.mp
    (hrequired _ (List.mem_cons_self) rfl : q.domain.isSome = true)
  obtain ⟨a, ha⟩ := Option.isSome_iff_exists.mp
    (hrequired _ (List.mem_cons_of_mem _ List.mem_cons_self) rfl : q.action.isSome = true)
  have hdomain := h.kept allFields.domain rfl
  have haction := h.kept allFields.action rfl
  simp only [hd] at hdomain
  simp only [ha] at haction
  refine ⟨?_, ?_, (h.kept allFields.record rfl).holds none,
    (h.kept allFields.timestamp rfl).holds .epoch⟩
  · simp only [Parts.change, hd]
    exact hdomain.once
  · simp only [Parts.change, ha]
    exact haction.once

/-- Members that say a change are gathered, in any order, and nothing is missing. -/
theorem exists_gathered {c : Change} {ms : List (String × Octets)}
    (h : Says ms c) :
    ∃ q, shape.Gathered shape.start ms q ∧ shape.missing q = [] ∧ q.change = c := by
  have hfields : ∃ q, shape.Gathered shape.start ms q := by
    refine Shape.exists_gathered_start fun key member hfind => ?_
    obtain ⟨hm, rfl⟩ := Shape.mem_of_find hfind
    simp only [shape, List.mem_cons, List.not_mem_nil, or_false] at hm
    rcases hm with rfl | rfl | rfl | rfl
    · exact ⟨_, _, _, allFields.domain, rfl, .inr ⟨_, h.domain⟩⟩
    · exact ⟨_, _, _, allFields.action, rfl, .inr ⟨_, h.action⟩⟩
    · exact ⟨_, _, _, allFields.record, rfl, h.record.exists_once⟩
    · exact ⟨_, _, _, allFields.timestamp, rfl, h.timestamp.exists_once⟩
  obtain ⟨q, hq⟩ := hfields
  have hdomain := h.domain.of_kept (hq.kept allFields.domain rfl) allFields.domain.unique
  have haction := h.action.of_kept (hq.kept allFields.action rfl) allFields.action.unique
  have hrecord := hq.getD_eq allFields.record rfl h.record
  have htime := hq.getD_eq allFields.timestamp rfl h.timestamp
  refine ⟨q, hq, ?_, ?_⟩
  · simp [Shape.missing, shape, Member.of, hdomain, haction]
  · rw [Parts.change, hdomain, haction, hrecord, htime]
    rfl

/-- An object spells a change when its members say it. -/
theorem spellsObject_iff {c : Change} {v : Octets} :
    shape.SpellsObject c v ↔ ∃ ms, IsObject ms v ∧ Says ms c := by
  constructor
  · rintro ⟨ms, q, hobject, hq, hcomplete, rfl⟩
    exact ⟨ms, hobject, hasMembers_of_gathered hq hcomplete⟩
  · rintro ⟨ms, hobject, hms⟩
    obtain ⟨q, hq, hcomplete, rfl⟩ := exists_gathered hms
    exact ⟨ms, q, hobject, hq, hcomplete, rfl⟩

/-- What a change is read from. -/
def Spelled (c : Change) (v : Octets) : Prop :=
  (∃ ms, IsObject ms v ∧ Says ms c) ∨ shape.SpellsList c v

theorem takes_read : Takes read Spelled :=
  (Shape.takes_read isRegular_shape).congr fun _ _ => or_congr_left spellsObject_iff

/-! ## Payloads -/

/-- A payload that is an object with these members, between white space. -/
def IsPayload (ms : List (String × Octets)) (s : Octets) : Prop :=
  ∃ w v w', IsBlank w ∧ IsObject ms v ∧ IsBlank w' ∧ s = w ++ (v ++ w')

theorem IsPayload.unique {ms ms' : List (String × Octets)} {s : Octets} (h : IsPayload ms s)
    (h' : IsPayload ms' s) : ms = ms' := by
  obtain ⟨w, v, w', hw, hv, -, rfl⟩ := h
  obtain ⟨w₂, v₂, w₂', hw₂, hv₂, -, hsame⟩ := h'
  have hdrop := hv.isValue.dropSpaces_append hw w'
  rw [hsame, hv₂.isValue.dropSpaces_append hw₂] at hdrop
  exact (hv.append_inj hv₂ hdrop.symm).1

/-- A payload with members begins with the bracket of an object. -/
theorem IsPayload.head? {ms : List (String × Octets)} {s : Octets} (h : IsPayload ms s) :
    (dropSpaces s).head? = some openObject := by
  obtain ⟨w, v, w', hw, hv, -, rfl⟩ := h
  rw [hv.isValue.dropSpaces_append hw]
  cases hv with
  | empty | members => rfl

/-- An object that is read has members. -/
theorem exists_isPayload {s : Octets} {c : Change} (h : ofOctets s = .ok c)
    (hroot : (dropSpaces s).head? = some openObject) :
    ∃ ms, IsPayload ms s ∧ Says ms c := by
  obtain ⟨w, v, w', hw, hv, hw', rfl⟩ := takes_read.readWhole_eq_ok.mp h
  rcases hv with ⟨ms, hobject, hms⟩ | hlist
  · exact ⟨ms, ⟨w, v, w', hw, hobject, hw', rfl⟩, hms⟩
  · have hvalue : IsValue v := takes_read.isValue (.inr hlist)
    obtain ⟨u, rfl⟩ := hlist.exists_cons
    rw [hvalue.dropSpaces_append hw] at hroot
    exact absurd (Option.some.inj hroot) (by decide)

/-- A payload that is an object is read as what its members say. -/
theorem IsPayload.ofOctets_eq_ok_iff {ms : List (String × Octets)} {s : Octets}
    (h : IsPayload ms s) {c : Change} : ofOctets s = .ok c ↔ Says ms c := by
  constructor
  · intro hread
    obtain ⟨ms', hms', hchange⟩ := exists_isPayload hread h.head?
    rwa [h.unique hms']
  · intro hms
    obtain ⟨w, v, w', hw, hv, hw', rfl⟩ := h
    exact takes_read.readWhole_eq_ok.mpr ⟨w, v, w', hw, .inl ⟨ms, hv, hms⟩, hw', rfl⟩

end Change
end CatalogReplica
