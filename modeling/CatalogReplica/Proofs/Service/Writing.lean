/-
# CatalogReplica.Proofs.Service.Writing -- what a write that is taken comes to

The three writes differ in what they check and which record they make, but not in
what they leave behind: one record, kept under the id that the write is about, and
a change that says so. A sequence of writes therefore leaves a history of changes
from which the store can be read off, id by id. All times in it come from a clock, and a
clock is in no leap second but one at the end of a minute, so every change in a history
survives the wire.
-/
import CatalogReplica.Proofs.Runs
import CatalogReplica.Proofs.Store.Records
import CatalogReplica.Proofs.Wire.RoundTrip
import CatalogReplica.Service

namespace CatalogReplica

namespace Store

/-- Every record is kept under its own id, and no id is empty. -/
structure Sound (s : Store) : Prop where
  own : ∀ {id r}, s.get? id = some r → r.id = id
  named : ∀ {id r}, s.get? id = some r → id.isEmpty = false

theorem sound_empty : Store.empty.Sound where
  own {id r} h := by
    rw [get?_empty] at h
    cases h
  named {id r} h := by
    rw [get?_empty] at h
    cases h

/-- Every leap second in a record of the store ends a minute. -/
def LeapsEndMinutes (s : Store) : Prop :=
  ∀ {id r}, s.get? id = some r → r.LeapsEndMinutes

theorem leapsEndMinutes_empty : Store.empty.LeapsEndMinutes := by
  intro id r h
  rw [get?_empty] at h
  cases h

theorem LeapsEndMinutes.put {s : Store} (hs : s.LeapsEndMinutes) {r : Record}
    (hr : r.LeapsEndMinutes) (id : String) :
    LeapsEndMinutes ⟨s.records.insert id r⟩ := by
  intro key x hx
  rw [get?_insert] at hx
  split at hx
  · cases hx
    exact hr
  · exact hs hx

end Store

namespace Service

/-- The id that a write is about; a new record gets the fresh one. -/
def Write.target (freshId : String) : Write → String
  | .create _ => freshId
  | .update id _ => id
  | .delete id => id

/-- What a write does to its record in the eyes of a reader. -/
def Write.action : Write → Action
  | .create _ => .upsert
  | .update _ _ => .upsert
  | .delete _ => .delete

/-- What a write that was taken leaves behind. -/
structure Leaves (s : Store) (freshId : String) (w : Write) (t : Taken) : Prop where
  record_id : t.record.id = w.target freshId
  named : (w.target freshId).isEmpty = false
  get? : ∀ id, t.store.get? id = if w.target freshId = id then some t.record else s.get? id
  change : t.change = match w.action with
    | .upsert => .upsert t.record
    | .delete => .delete (w.target freshId)

theorem take_eq_ok {s : Store} (hs : s.Sound) {freshId : String} {now : Timestamp} {w : Write}
    {t : Taken} (hfresh : freshId.isEmpty = false) (h : take s freshId now w = .ok t) :
    Leaves s freshId w t := by
  cases w with
  | create d =>
    unfold take Store.insert at h
    cases hvalid : d.validate with
    | error f => simp [hvalid, bind, Except.bind] at h
    | ok u =>
      simp only [hvalid, bind, Except.bind, Except.ok.injEq] at h
      subst h
      exact ⟨rfl, hfresh, fun id => Store.get?_insert s freshId _ id, rfl⟩
  | update id d =>
    unfold take Store.replace at h
    cases hvalid : d.validate with
    | error f => simp [hvalid, bind, Except.bind] at h
    | ok u =>
      cases hfound : s.get? id with
      | none => simp [hvalid, hfound, bind, Except.bind] at h
      | some r =>
        -- the record keeps its id, which is the one it was found under
        simp only [hvalid, hfound, bind, Except.bind, Except.ok.injEq] at h
        subst h
        have hid : r.id = id := hs.own hfound
        exact ⟨hid, hs.named hfound, fun key => Store.get?_insert s id _ key, rfl⟩
  | delete id =>
    unfold take Store.deactivate at h
    cases hfound : s.get? id with
    | none => simp [hfound] at h
    | some r =>
      simp only [hfound, Option.map_some, Except.ok.injEq] at h
      subst h
      have hid : r.id = id := hs.own hfound
      exact ⟨hid, hs.named hfound, fun key => Store.get?_insert s id _ key, rfl⟩

/-- A write that is taken keeps the store sound. -/
theorem Leaves.sound {s : Store} {freshId : String} {w : Write} {t : Taken} (hs : s.Sound)
    (h : Leaves s freshId w t) : t.store.Sound := by
  constructor
  case own =>
    intro id r hr
    rw [h.get?] at hr
    split at hr
    · rename_i heq
      cases hr
      exact h.record_id.trans heq
    · exact hs.own hr
  case named =>
    intro id r hr
    rw [h.get?] at hr
    split at hr
    · rename_i heq
      exact heq ▸ h.named
    · exact hs.named hr

/-- With a regular time, a write keeps the times in the store regular, and those in the
change that it leaves behind are regular. -/
theorem leapsEndMinutes_of_take {s : Store} (hs : s.LeapsEndMinutes) {freshId : String}
    {now : Timestamp} (hnow : now.LeapEndsMinute) {w : Write} {t : Taken}
    (h : take s freshId now w = .ok t) : t.store.LeapsEndMinutes ∧ t.change.LeapsEndMinutes := by
  have hepoch : Timestamp.epoch.LeapEndsMinute := by decide
  have hupsert {r : Record} (hr : r.LeapsEndMinutes) : (Change.upsert r).LeapsEndMinutes :=
    ⟨fun _ hmem => Option.some.inj hmem ▸ hr, hepoch⟩
  cases w with
  | create d =>
    unfold take Store.insert at h
    obtain ⟨⟨r, s'⟩, hinsert, hok⟩ := exists_of_bind_eq_ok h
    obtain ⟨-, -, hpair⟩ := exists_of_bind_eq_ok hinsert
    cases hpair
    cases hok
    have hr : (d.record freshId now).LeapsEndMinutes := ⟨hnow, hnow⟩
    exact ⟨hs.put hr _, hupsert hr⟩
  | update id d =>
    unfold take Store.replace at h
    obtain ⟨found, hreplace, hok⟩ := exists_of_bind_eq_ok h
    obtain ⟨-, -, hpair⟩ := exists_of_bind_eq_ok hreplace
    cases hfound : s.get? id with
    | none =>
      rw [hfound] at hpair
      cases hpair
      cases hok
    | some r =>
      rw [hfound] at hpair
      cases hpair
      cases hok
      have hr : (d.onto r now).LeapsEndMinutes := ⟨(hs hfound).createdAt, hnow⟩
      exact ⟨hs.put hr id, hupsert hr⟩
  | delete id =>
    unfold take Store.deactivate at h
    cases hfound : s.get? id with
    | none => simp [hfound] at h
    | some r =>
      simp only [hfound, Option.map_some, Except.ok.injEq] at h
      subst h
      have hr : ({ r with active := false, updatedAt := now } : Record).LeapsEndMinutes :=
        ⟨(hs hfound).createdAt, hnow⟩
      refine ⟨hs.put hr id, ⟨?_, hepoch⟩⟩
      rintro x ⟨⟩
      exact ⟨hepoch, hepoch⟩

/-! ## Sequences of calls -/

/-- A time that a clock shows. -/
structure ClockTime where
  time : Timestamp
  regular : time.LeapEndsMinute

instance : Coe ClockTime Timestamp := ⟨ClockTime.time⟩

/-- The first instant of 1970. -/
def ClockTime.epoch : ClockTime := ⟨.epoch, by decide⟩

/-- A call that writes: what is asked for, and what the surroundings bring to it, an
id for a new record, the time of writing and that of publishing. -/
structure Call where
  write : Write
  freshId : String
  now : ClockTime
  publishedAt : ClockTime

/-- The id that a call is about. -/
def Call.target (c : Call) : String := c.write.target c.freshId

/-- A store, and the calls that it has taken with what they came to, in order. -/
structure History where
  store : Store
  taken : List (Call × Taken)

namespace History

/-- Nothing has been written. -/
def start : History := ⟨.empty, []⟩

/-- A call is made. One that fails leaves the store as it was and publishes
nothing. -/
def call (h : History) (c : Call) : History :=
  match take h.store c.freshId c.now c.write with
  | .ok t => ⟨t.store, h.taken ++ [(c, t)]⟩
  | .error _ => h

/-- Calls are made one after another. -/
def calls (h : History) (cs : List Call) : History := cs.foldl call h

/-- What has been published, as it stands on the wire. -/
def log (h : History) : List String :=
  h.taken.map fun (c, t) => (t.change.publishedAt c.publishedAt).json

/-- What the last call that was taken for an id did to it. -/
def lastAction? (h : History) (id : String) : Option Action :=
  ((h.taken.filter fun (c, _) => c.target = id).getLast?).map fun (c, _) => c.write.action

/-- What readers should find: the current record of every id that was last created
or updated. -/
def view (h : History) (id : String) : Option Record :=
  match h.lastAction? id with
  | some .upsert => h.store.get? id
  | _ => none

/-- Every leap second in the store and in the changes of a history ends a minute. -/
structure LeapsEndMinutes (h : History) : Prop where
  store : h.store.LeapsEndMinutes
  taken : ∀ d ∈ h.taken, d.2.change.LeapsEndMinutes

theorem leapsEndMinutes_start : start.LeapsEndMinutes where
  store := Store.leapsEndMinutes_empty
  taken _ hd := absurd hd List.not_mem_nil

theorem LeapsEndMinutes.call {h : History} (hl : h.LeapsEndMinutes) (c : Call) :
    (h.call c).LeapsEndMinutes := by
  unfold History.call
  cases htake : take h.store c.freshId c.now c.write with
  | error f => exact hl
  | ok t =>
    obtain ⟨hstore, hchange⟩ := leapsEndMinutes_of_take hl.store c.now.regular htake
    refine ⟨hstore, fun d hd => ?_⟩
    rcases List.mem_append.mp hd with hold | hnew
    · exact hl.taken d hold
    · obtain rfl := List.mem_singleton.mp hnew
      exact hchange

/-- Clocks are all that brings times to the calls, so nothing irregular comes up. -/
theorem leapsEndMinutes_calls (cs : List Call) : (start.calls cs).LeapsEndMinutes :=
  List.foldlRecOn cs call leapsEndMinutes_start fun _ hl c _ => hl.call c

theorem calls_append (h : History) (as bs : List Call) :
    h.calls (as ++ bs) = (h.calls as).calls bs :=
  List.foldl_append

theorem lastAction?_snoc (s s' : Store) (ds : List (Call × Taken)) (c : Call) (t : Taken)
    (id : String) : (History.mk s' (ds ++ [(c, t)])).lastAction? id =
      if c.target = id then some c.write.action else (History.mk s ds).lastAction? id := by
  unfold lastAction?
  rw [List.filter_append, List.getLast?_append]
  by_cases htarget : c.target = id
  · simp [htarget]
  · simp [htarget]

end History
end Service
end CatalogReplica
