/-
# CatalogReplica.Proofs.Store.Calls -- the store after a sequence of calls

Three calls write to the store: one inserts a record under an id that was generated for it,
and two change the record under an id that the caller gives. A call fails, finds nothing, or
writes one record under its own id; what each of them may change of the record is said by
`Does`, and nothing else in the store changes. So the ids that a store knows are those of
the records that it was built with and those that were generated since, and none of them is
ever lost.
-/
import CatalogReplica.Proofs.Store.Records
import Mathlib.Data.List.Induction

namespace CatalogReplica.Store

/-! ## Calls -/

/-- A call that writes. The id of a new record and the time of writing are brought to it by
the surroundings. -/
inductive Call where
  | insert (freshId : String) (d : Draft) (now : Timestamp)
  | replace (id : String) (d : Draft) (now : Timestamp)
  | deactivate (id : String) (now : Timestamp)

/-- What a call comes to: a failure, or nothing, or the record that was written and the store
with it. -/
abbrev Result := Except Failure (Option (Record × Store))

def result (s : Store) : Call → Result
  | .insert freshId d now => (s.insert freshId d now).map some
  | .replace id d now => s.replace id d now
  | .deactivate id now => .ok (s.deactivate id now)

/-- The store after a call: the one that the call hands over, if it does. -/
def called (s : Store) (c : Call) : Store :=
  match s.result c with
  | .ok (some (_, t)) => t
  | .ok none | .error _ => s

/-- The store after calls made one after another. -/
def afterCalls (s : Store) (cs : List Call) : Store := cs.foldl called s

theorem afterCalls_concat (s : Store) (cs : List Call) (c : Call) :
    s.afterCalls (cs ++ [c]) = (s.afterCalls cs).called c :=
  List.foldl_append ..

/-! ## What a call does -/

namespace Call

/-- What the caller says about the record. -/
def draft? : Call → Option Draft
  | .insert _ d _ => some d
  | .replace _ d _ => some d
  | .deactivate _ _ => none

/-- The id of the record that a call is to change. -/
def about? : Call → Option String
  | .insert _ _ _ => none
  | .replace id _ _ => some id
  | .deactivate id _ => some id

/-- The id that is generated for a call: only a draft that is accepted gets one. -/
def generated? : Call → Option String
  | .insert freshId d _ => if d.fault? = none then some freshId else none
  | .replace _ _ _ => none
  | .deactivate _ _ => none

end Call

/-- One record is written under its own id, and everything else is as it was. -/
structure Writes (s : Store) (r : Record) (t : Store) : Prop where
  written : t.get? r.id = some r
  others : ∀ id, id ≠ r.id → t.get? id = s.get? id

/-- Category and name of a record say something. -/
def Filled (r : Record) : Prop := isBlankText r.category = false ∧ isBlankText r.name = false

/-- What a call comes to, by the store that it finds. -/
inductive Does (s : Store) : Call → Result → Prop where
  /-- The category is missing, or the name is. -/
  | refused {c : Call} {d : Draft} {f : Failure} (draft : c.draft? = some d)
      (reason : (isBlankText d.category = true ∧ f = .store .noCategory) ∨
        (isBlankText d.category = false ∧ isBlankText d.name = true ∧ f = .store .noName)) :
      Does s c (.error f)
  /-- There is no record with the id. -/
  | missing {c : Call} {id : String} (accepted : ∀ d, c.draft? = some d → d.fault? = none)
      (about : c.about? = some id) (unknown : s.get? id = none) : Does s c (.ok none)
  | inserted {freshId : String} {d : Draft} {now : Timestamp} {r : Record} {t : Store}
      (generated : (Call.insert freshId d now).generated? = some freshId)
      (unknown : s.get? freshId = none) (filled : Filled r)
      (record : r =
        { id := freshId, active := d.active, category := d.category, name := d.name,
          desc := d.desc, value := d.value, createdAt := now, updatedAt := now })
      (writes : Writes s r t) : Does s (.insert freshId d now) (.ok (some (r, t)))
  | replaced {id : String} {d : Draft} {now : Timestamp} {old r : Record} {t : Store}
      (found : s.get? id = some old) (same : old.id = id) (filled : Filled r)
      (record : r =
        { old with
          active := d.active, category := d.category, name := d.name, desc := d.desc,
          value := d.value, updatedAt := now })
      (writes : Writes s r t) : Does s (.replace id d now) (.ok (some (r, t)))
  | deactivated {id : String} {now : Timestamp} {old r : Record} {t : Store}
      (found : s.get? id = some old) (same : old.id = id)
      (record : r = { old with active := false, updatedAt := now })
      (writes : Writes s r t) : Does s (.deactivate id now) (.ok (some (r, t)))

theorem writes_insert (s : Store) {key : String} {r : Record} (hid : r.id = key) :
    Writes s r ⟨s.records.insert key r⟩ := by
  constructor
  · rw [get?_insert, if_pos hid.symm]
  · intro id hne
    rw [get?_insert, if_neg fun hkey => hne (hkey.symm.trans hid.symm)]

section Step

variable {s : Store} (hown : ∀ {id : String} {r : Record}, s.get? id = some r → r.id = id)

include hown

/-- A call does what it is to do, if an id that is generated for it is new. -/
theorem does_result {c : Call} (hnew : ∀ id, c.generated? = some id → s.get? id = none) :
    Does s c (s.result c) := by
  cases c with
  | insert freshId d now =>
    simp only [result, Store.insert, Draft.validate_eq]
    cases hfault : d.fault? with
    | some f => exact .refused rfl (Draft.fault?_eq_some_iff.mp hfault)
    | none =>
      have hgenerated : (Call.insert freshId d now).generated? = some freshId := if_pos hfault
      exact .inserted hgenerated (hnew freshId hgenerated) (Draft.fault?_eq_none_iff.mp hfault)
        rfl (writes_insert s rfl)
  | replace id d now =>
    simp only [result, Store.replace, Draft.validate_eq]
    cases hfault : d.fault? with
    | some f => exact .refused rfl (Draft.fault?_eq_some_iff.mp hfault)
    | none =>
      cases hfound : s.get? id with
      | none =>
        refine .missing (fun d' hd => ?_) rfl hfound
        cases hd
        exact hfault
      | some old =>
        have hid : old.id = id := hown hfound
        exact .replaced hfound hid (Draft.fault?_eq_none_iff.mp hfault) rfl (writes_insert s hid)
  | deactivate id now =>
    simp only [result, Store.deactivate]
    cases hfound : s.get? id with
    | none => exact .missing nofun rfl hfound
    | some old =>
      have hid : old.id = id := hown hfound
      exact .deactivated hfound hid rfl (writes_insert s hid)

end Step

variable {s : Store} {c : Call}

/-- After a call every record is still kept under its own id. -/
theorem Writes.own {r : Record} {t : Store} (h : Writes s r t)
    (hown : ∀ {id : String} {r : Record}, s.get? id = some r → r.id = id) {id : String}
    {x : Record} (hx : t.get? id = some x) : x.id = id := by
  by_cases hid : id = r.id
  · rw [hid, h.written] at hx
    cases hx
    exact hid.symm
  · rw [h.others id hid] at hx
    exact hown hx

/-! ## Sequences of calls -/

/-- The ids that were generated for calls. -/
def generated (cs : List Call) : List String := cs.filterMap Call.generated?

/-- The ids that a store knows: those it was given, and those that were generated. -/
def known (given : List Record) (cs : List Call) : List String :=
  given.map (·.id) ++ generated cs

/-- Generated ids do not repeat, and no record was given with one of them. -/
structure Fresh (given : List Record) (cs : List Call) : Prop where
  nodup : (generated cs).Nodup
  apart : ∀ r ∈ given, r.id ∉ generated cs

variable {given : List Record} {cs later : List Call}

theorem generated_append (cs later : List Call) :
    generated (cs ++ later) = generated cs ++ generated later :=
  List.filterMap_append

theorem Fresh.of_append (h : Fresh given (cs ++ later)) : Fresh given cs := by
  obtain ⟨hnodup, hapart⟩ := h
  rw [generated_append] at hnodup hapart
  exact ⟨(List.nodup_append.mp hnodup).1, fun r hr hid => hapart r hr (List.mem_append_left _ hid)⟩

/-- The id that is generated for the last call is not known before. -/
theorem Fresh.not_known (h : Fresh given (cs ++ [c])) {id : String}
    (hid : c.generated? = some id) : id ∉ known given cs := by
  obtain ⟨hnodup, hapart⟩ := h
  have hlast : generated [c] = [id] := by simp [generated, hid]
  rw [generated_append, hlast] at hnodup hapart
  intro hknown
  rcases List.mem_append.mp hknown with hgiven | hearlier
  · obtain ⟨r, hr, rfl⟩ := List.mem_map.mp hgiven
    exact hapart r hr (List.mem_append_right _ (List.mem_singleton_self _))
  · exact (List.nodup_append.mp hnodup).2.2 id hearlier id (List.mem_singleton_self _) rfl

/-- The invariant: every record is under its own id, and there is one for every id that is
known. -/
structure Holds (given : List Record) (cs : List Call) (s : Store) : Prop where
  own : ∀ {id : String} {r : Record}, s.get? id = some r → r.id = id
  known : ∀ id, (s.get? id).isSome = true ↔ id ∈ known given cs

theorem Holds.does (h : Holds given cs s) (hfresh : Fresh given (cs ++ [c])) :
    Does s c (s.result c) := by
  refine does_result h.own fun id hid => ?_
  have hnew : (s.get? id).isSome ≠ true := mt (h.known id).mp (hfresh.not_known hid)
  simpa using hnew

/-- What is known after one more call, if the call has written a record under an id that was
known, or that was generated for it. -/
theorem Holds.written (h : Holds given cs s) {r : Record} {t : Store} (hwrites : Writes s r t)
    (hid : c.generated? = some r.id ∨ (c.generated? = none ∧ (s.get? r.id).isSome = true)) :
    Holds given (cs ++ [c]) t := by
  refine ⟨hwrites.own h.own, fun id => ?_⟩
  have hknown : id ∈ Store.known given (cs ++ [c]) ↔
      id ∈ Store.known given cs ∨ c.generated? = some id := by
    simp [Store.known, generated, or_assoc, eq_comm]
  rw [hknown, ← h.known]
  by_cases hr : id = r.id
  · subst hr
    rw [hwrites.written]
    rcases hid with hnew | ⟨-, hthere⟩
    · simp [hnew]
    · simp [hthere]
  · rw [hwrites.others id hr]
    rcases hid with hnew | ⟨hnone, -⟩
    · simp [hnew, Ne.symm hr]
    · simp [hnone]

theorem Holds.unchanged (h : Holds given cs s) (hnone : c.generated? = none) :
    Holds given (cs ++ [c]) s := by
  refine ⟨h.own, fun id => ?_⟩
  rw [h.known, Store.known, Store.known, generated_append]
  simp [generated, hnone]

theorem Holds.called (h : Holds given cs s) (hfresh : Fresh given (cs ++ [c])) :
    Holds given (cs ++ [c]) (s.called c) := by
  have hdoes := h.does hfresh
  unfold Store.called
  generalize s.result c = result at hdoes
  cases hdoes with
  | @refused _ d f draft reason =>
    have hfault : d.fault? ≠ none := by simp [Draft.fault?_eq_some_iff.mpr reason]
    refine h.unchanged ?_
    cases c with
    | insert freshId d' now =>
      cases draft
      exact if_neg hfault
    | replace id d' now => rfl
    | deactivate id now => rfl
  | missing accepted about unknown =>
    refine h.unchanged ?_
    cases c with
    | insert freshId d now => cases about
    | replace id d now => rfl
    | deactivate id now => rfl
  | inserted generated unknown filled record writes =>
    subst record
    exact h.written writes (.inl generated)
  | replaced found same filled record writes =>
    subst record
    exact h.written writes (.inr ⟨rfl, by simp [same, found]⟩)
  | deactivated found same record writes =>
    subst record
    exact h.written writes (.inr ⟨rfl, by simp [same, found]⟩)

theorem holds_ofList (given : List Record) : Holds given [] (ofList given) := by
  refine ⟨own_ofList given, fun id => ?_⟩
  rw [isSome_ofList]
  simp [known, generated]

theorem holds_afterCalls (hfresh : Fresh given cs) :
    Holds given cs ((ofList given).afterCalls cs) := by
  induction cs using List.reverseRecOn with
  | nil => exact holds_ofList given
  | append_singleton cs c ih =>
    rw [afterCalls_concat]
    exact (ih hfresh.of_append).called hfresh

/-! ## Records last -/

/-- Every record of a store is in the other one too, created at the same time. -/
def Lasts (s t : Store) : Prop :=
  ∀ r, s.get? r.id = some r → ∃ r', t.get? r'.id = some r' ∧ r'.id = r.id ∧
    r'.createdAt = r.createdAt

theorem Lasts.refl (s : Store) : Lasts s s := fun r hr => ⟨r, hr, rfl, rfl⟩

theorem Lasts.trans {s t u : Store} (hst : Lasts s t) (htu : Lasts t u) : Lasts s u := by
  intro r hr
  obtain ⟨r', hr', hid, hcreated⟩ := hst r hr
  obtain ⟨r'', hr'', hid', hcreated'⟩ := htu r' hr'
  exact ⟨r'', hr'', hid'.trans hid, hcreated'.trans hcreated⟩

/-- A written record stands for the one that it replaces. -/
theorem Writes.lasts {x : Record} {t : Store} (h : Writes s x t)
    (hx : ∀ r, s.get? r.id = some r → r.id = x.id → x.createdAt = r.createdAt) : Lasts s t := by
  intro r hr
  by_cases hid : r.id = x.id
  · exact ⟨x, h.written, hid.symm, hx r hr hid⟩
  · exact ⟨r, (h.others r.id hid).trans hr, rfl, rfl⟩

theorem Does.lasts (h : Does s c (s.result c)) : Lasts s (s.called c) := by
  unfold called
  generalize s.result c = result at h
  cases h with
  | refused draft reason => exact .refl s
  | missing accepted about unknown => exact .refl s
  | inserted generated unknown filled record writes =>
    subst record
    apply writes.lasts
    intro r hr hid
    have hold : s.get? r.id = none := hid ▸ unknown
    simp [hold] at hr
  | replaced found same filled record writes =>
    subst record
    apply writes.lasts
    intro r hr hid
    have hsame : s.get? r.id = _ := hid.trans same ▸ found
    cases hr.symm.trans hsame
    rfl
  | deactivated found same record writes =>
    subst record
    apply writes.lasts
    intro r hr hid
    have hsame : s.get? r.id = _ := hid.trans same ▸ found
    cases hr.symm.trans hsame
    rfl

theorem lasts_afterCalls (hfresh : Fresh given (cs ++ later)) :
    Lasts ((ofList given).afterCalls cs) ((ofList given).afterCalls (cs ++ later)) := by
  induction later using List.reverseRecOn with
  | nil =>
    rw [List.append_nil]
    exact .refl _
  | append_singleton later c ih =>
    rw [← List.append_assoc] at hfresh ⊢
    have hdoes := (holds_afterCalls hfresh.of_append).does hfresh
    rw [afterCalls_concat]
    exact (ih hfresh.of_append).trans hdoes.lasts

/-- After any calls a scan has one record for each id that is known, in the order of the
octets of the ids, and a scan of one category is the part of it with that category. On the
way there no record is lost, and none gets another id or time of creation; and every call
does what it is to do, or leaves the store as it was. -/
theorem calls_keep_records (hfresh : Fresh given cs) :
    let s := (ofList given).afterCalls cs
    ((s.scan none).Pairwise fun a b => Octets.ofString a.id < Octets.ofString b.id) ∧
    (∀ id, id ∈ (s.scan none).map (·.id) ↔ id ∈ known given cs) ∧
    (∀ r, r ∈ s.scan none ↔ s.get? r.id = some r) ∧
    (∀ category, s.scan (some category) = (s.scan none).filter (·.category = category)) ∧
    ∀ before later, cs = before ++ later →
      let t := (ofList given).afterCalls before
      (∀ r ∈ t.scan none, ∃ r' ∈ s.scan none, r'.id = r.id ∧ r'.createdAt = r.createdAt) ∧
      ∀ c rest, later = c :: rest →
        Does t c (t.result c) ∧
        (∀ r u, t.result c = .ok (some (r, u)) → t.called c = u) ∧
        ((∀ r u, t.result c ≠ .ok (some (r, u))) → t.called c = t) := by
  intro s
  have hs : Holds given cs s := holds_afterCalls hfresh
  refine ⟨scan_pairwise hs.own, fun id => ?_, fun r => mem_scan_iff_get? hs.own, scan_some s, ?_⟩
  · rw [mem_ids_scan hs.own]
    exact hs.known id
  intro before later hcs t
  subst hcs
  have ht : Holds given before t := holds_afterCalls hfresh.of_append
  refine ⟨fun r hr => ?_, fun c rest hlater => ⟨?_, fun r u hresult => ?_, fun hnothing => ?_⟩⟩
  · obtain ⟨r', hr', hsame⟩ := lasts_afterCalls hfresh r ((mem_scan_iff_get? ht.own).mp hr)
    exact ⟨r', (mem_scan_iff_get? hs.own).mpr hr', hsame⟩
  · subst hlater
    rw [List.append_cons] at hfresh
    exact ht.does hfresh.of_append
  · rw [called, hresult]
  · unfold called
    cases hresult : t.result c with
    | error f => rfl
    | ok written =>
      cases written with
      | none => rfl
      | some written => exact absurd hresult (hnothing written.1 written.2)

/-- A draft without a name is refused, the next one gets the id that is generated for it, a
record is deactivated, and one that is not there is not. -/
theorem calls_keep_given_records :
    let tool : Draft := { active := true, category := "tools", name := "saw" }
    let given : List Record := [tool.record "b" .epoch, tool.record "a" .epoch]
    let cs : List Call :=
      [.insert "c" { tool with name := " " } .epoch, .insert "c" tool .epoch,
        .replace "b" { tool with category := "parts" } .epoch, .deactivate "a" .epoch,
        .deactivate "d" .epoch]
    let s := (ofList given).afterCalls cs
    Fresh given cs ∧ (∀ id, id ∈ (s.scan none).map (·.id) ↔ id ∈ ["b", "a", "c"]) ∧
      ∃ r ∈ s.scan none, r.id = "a" ∧ r.createdAt = .epoch := by
  intro tool given cs s
  have hgenerated : generated cs = ["c"] := by decide +kernel
  have hfresh : Fresh given cs := by
    constructor
    · simp [hgenerated]
    · simp [hgenerated, given, Draft.record]
  have hkept := calls_keep_records hfresh
  refine ⟨hfresh, fun id => ?_, ?_⟩
  · rw [hkept.2.1, known, hgenerated]
    rfl
  · have hlasts := (hkept.2.2.2.2 [] cs rfl).1
    exact hlasts (tool.record "a" .epoch) (by decide +kernel)

end CatalogReplica.Store
