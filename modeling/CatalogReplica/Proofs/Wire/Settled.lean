/-
# CatalogReplica.Proofs.Wire.Settled -- what is read can be written again

A leap second is written as second 60 at the end of a minute, and anywhere else like the
second behind it. No text names a leap second of the other kind, so what was read once, as an
object or as a list, has none (`leapsEndMinutes_of_ofOctets`). It is the same after it was
written and read again, as often as one likes.
-/
import CatalogReplica.Proofs.Time.LocalTime
import CatalogReplica.Proofs.Wire.Payloads
import CatalogReplica.Proofs.Wire.RoundTrip

namespace CatalogReplica

open Json

theorem leapEndsMinute_of_readTimestamp {s rest : Octets} {t : Timestamp}
    (h : readTimestamp s = .ok (t, rest)) : t.LeapEndsMinute := by
  obtain ⟨-, -, -, ⟨text, -, hread⟩, -⟩ := takes_timestamp.eq_ok_iff.mp h
  exact Timestamp.leapEndsMinute_of_read hread

namespace Record

/-- Every leap second that has been gathered ends a minute. -/
structure Parts.LeapsEndMinutes (p : Parts) : Prop where
  createdAt : ∀ t ∈ p.createdAt, t.LeapEndsMinute
  updatedAt : ∀ t ∈ p.updatedAt, t.LeapEndsMinute

theorem leapsEndMinutes_of_member {m : Member Parts} (hm : m ∈ shape.members) {p p' : Parts}
    {v : Octets} (hv : Stands (m.read p) p' v) (hp : p.LeapsEndMinutes) : p'.LeapsEndMinutes := by
  simp only [shape, List.mem_cons, List.not_mem_nil, or_false] at hm
  rcases hm with rfl | rfl | rfl | rfl | rfl | rfl | rfl | rfl
  all_goals
    obtain ⟨⟨b, rest⟩, hread, hsame⟩ := exists_of_map (hv.2 [])
    obtain rfl := (Prod.mk.inj hsame).1
  -- only the last two members set a time
  rotate_left 6
  · exact ⟨fun t ht => Option.some.inj ht ▸ leapEndsMinute_of_readTimestamp hread, hp.updatedAt⟩
  · exact ⟨hp.createdAt, fun t ht => Option.some.inj ht ▸ leapEndsMinute_of_readTimestamp hread⟩
  all_goals exact ⟨hp.createdAt, hp.updatedAt⟩

theorem leapsEndMinutes_of_read {s rest : Octets} {r : Record} (h : read s = .ok (r, rest)) :
    r.LeapsEndMinutes := by
  obtain ⟨-, v, -, hv, -⟩ := (Shape.takes_read isRegular_shape).eq_ok_iff.mp h
  have hstart : ({} : Parts).LeapsEndMinutes := ⟨by simp, by simp⟩
  have hkept : ∃ q : Parts, q.LeapsEndMinutes ∧ shape.finish q = r :=
    Shape.exists_kept hstart (fun _ hm => leapsEndMinutes_of_member hm) hv
  obtain ⟨q, hq, rfl⟩ := hkept
  have hdefault {o : Option Timestamp} (ho : ∀ t ∈ o, t.LeapEndsMinute) :
      (o.getD .epoch).LeapEndsMinute := by
    cases o with
    | none => decide
    | some t => exact ho t rfl
  exact ⟨hdefault hq.createdAt, hdefault hq.updatedAt⟩

end Record

namespace Change

/-- Every leap second that has been gathered ends a minute. -/
structure Parts.LeapsEndMinutes (p : Parts) : Prop where
  record : ∀ o ∈ p.record, ∀ r ∈ o, r.LeapsEndMinutes
  timestamp : ∀ t ∈ p.timestamp, t.LeapEndsMinute

theorem leapsEndMinutes_of_member {m : Member Parts} (hm : m ∈ shape.members) {p p' : Parts}
    {v : Octets} (hv : Stands (m.read p) p' v) (hp : p.LeapsEndMinutes) : p'.LeapsEndMinutes := by
  simp only [shape, List.mem_cons, List.not_mem_nil, or_false] at hm
  rcases hm with rfl | rfl | rfl | rfl
  all_goals
    obtain ⟨⟨b, rest⟩, hread, hsame⟩ := exists_of_map (hv.2 [])
    obtain rfl := (Prod.mk.inj hsame).1
  · exact ⟨hp.record, hp.timestamp⟩
  · exact ⟨hp.record, hp.timestamp⟩
  · refine ⟨?_, hp.timestamp⟩
    rintro o ⟨⟩ r ⟨⟩
    obtain ⟨w, v, -, hspells, -⟩ := takes_record.eq_ok_iff.mp hread
    exact Record.leapsEndMinutes_of_read (Record.takes_read.reads isBlank_nil hspells [])
  · exact ⟨hp.record, fun t ht => Option.some.inj ht ▸ leapEndsMinute_of_readTimestamp hread⟩

theorem leapsEndMinutes_of_read {s rest : Octets} {c : Change} (h : read s = .ok (c, rest)) :
    c.LeapsEndMinutes := by
  obtain ⟨-, v, -, hv, -⟩ := (Shape.takes_read isRegular_shape).eq_ok_iff.mp h
  have hstart : ({} : Parts).LeapsEndMinutes := ⟨by simp, by simp⟩
  have hkept : ∃ q : Parts, q.LeapsEndMinutes ∧ shape.finish q = c :=
    Shape.exists_kept hstart (fun _ hm => leapsEndMinutes_of_member hm) hv
  obtain ⟨q, hq, rfl⟩ := hkept
  refine ⟨?_, ?_⟩
  · show ∀ r ∈ q.record.getD none, r.LeapsEndMinutes
    cases hrecord : q.record with
    | none => simp
    | some o => exact hq.record o hrecord
  · show (q.timestamp.getD .epoch).LeapEndsMinute
    cases htime : q.timestamp with
    | none => decide
    | some t => exact hq.timestamp t htime

/-- What was read comes back as it is when it is written and read again. -/
theorem leapsEndMinutes_of_ofOctets {s : Octets} {c : Change} (h : ofOctets s = .ok c) :
    c.LeapsEndMinutes := by
  obtain ⟨w, v, -, -, hv, -, -⟩ := takes_read.readWhole_eq_ok.mp h
  exact leapsEndMinutes_of_read (takes_read.reads isBlank_nil hv [])

end Change
end CatalogReplica
