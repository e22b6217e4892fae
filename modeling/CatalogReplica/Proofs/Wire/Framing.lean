/-
# CatalogReplica.Proofs.Wire.Framing -- where a payload ends

The text of a change tells where it ends. A reader that gives a result gives the same on a
longer input and leaves the more, so a part of the text that were read would leave something
of the whole; and what is left behind the text must be white space. Hence neither a text that
was cut, at whatever octet, nor one with something behind it is taken for a change.
-/
import CatalogReplica.Proofs.Wire.Entries
import CatalogReplica.Proofs.Wire.Payloads

namespace CatalogReplica

open Json

namespace Change

/-- These octets are no change, and an entry with them as its payload does not hold one. -/
def IsRejected (s : Octets) : Prop :=
  ∃ fault, ofOctets s = .error fault ∧
    ∀ (id : EntryId) (fields : Fields) (redelivered : Bool),
      Entry.payload fields = .ok s →
        (Entry.mk id.text fields redelivered).decode = .error (.payload fault)

theorem isRejected_of_error {s : Octets} {fault : Fault} (h : ofOctets s = .error fault) :
    IsRejected s := by
  refine ⟨fault, h, fun id fields redelivered hpayload => ?_⟩
  unfold Entry.decode
  dsimp only
  rw [EntryId.read?_text]
  simp only [hpayload, bind, Except.bind, h]

/-- A part of a text is not read where the whole is: it would leave what was cut off. -/
theorem ofOctets_error_of_append {c : Change} {s more : Octets} (h : read (s ++ more) = .ok (c, []))
    (hmore : more ≠ []) : ∃ fault, ofOctets s = .error fault := by
  cases hread : ofOctets s with
  | error fault => exact ⟨fault, rfl⟩
  | ok c' =>
    -- A change read from the part would be read from the whole as well, and leave `more`.
    obtain ⟨w, v, w', hw, hv, -, rfl⟩ := takes_read.readWhole_eq_ok.mp hread
    have hlonger := takes_read.append (takes_read.reads hw hv w') more
    rw [h] at hlonger
    obtain ⟨-, hnil⟩ := Prod.mk.inj (Except.ok.inj hlonger)
    exact absurd (List.append_eq_nil_iff.mp hnil.symm).2 hmore

/-- What stands behind a change that is read must be white space. -/
theorem ofOctets_append {c : Change} {s : Octets} (h : read s = .ok (c, [])) (more : Octets) :
    ofOctets (s ++ more) =
      if (dropSpaces more).isEmpty then .ok c else .error .trailingCharacters := by
  have hlonger := takes_read.append h more
  rw [List.nil_append] at hlonger
  rw [ofOctets, readWhole, hlonger]
  rfl

/-- The text of a change frames itself. Cut at any octet it is rejected, and so it is with
anything but white space behind it, while white space around it does not matter: it is read
as what the change settles to, which is the change itself exactly if every leap second in it
ends a minute. So a payload that was truncated, or two in one, are never taken for a change. -/
theorem json_frames_itself (c : Change) :
    (∀ s more, s ++ more = Octets.ofString c.json → more ≠ [] → IsRejected s) ∧
    (∀ more, ¬ IsBlank more → IsRejected (Octets.ofString c.json ++ more)) ∧
    (∀ w w', IsBlank w → IsBlank w' →
      ofOctets (w ++ (Octets.ofString c.json ++ w')) = .ok c.settled) ∧
    (c.settled = c ↔ c.LeapsEndMinutes) := by
  refine ⟨?_, ?_, ?_, settled_eq_iff⟩
  · intro s more hparts hmore
    have hwhole := c.read_json
    rw [← hparts] at hwhole
    obtain ⟨fault, hfault⟩ := ofOctets_error_of_append hwhole hmore
    exact isRejected_of_error hfault
  · intro more hmore
    have hleft : (dropSpaces more).isEmpty = false := by
      by_contra hempty
      rw [Bool.not_eq_false, List.isEmpty_iff] at hempty
      obtain ⟨w, hw, hblank⟩ := exists_blank_append more
      rw [hempty, List.append_nil] at hblank
      exact hmore (hblank ▸ hw)
    have hread := ofOctets_append c.read_json more
    rw [hleft] at hread
    exact isRejected_of_error hread
  · intro w w' hw hw'
    have hread := takes_read.blank_append hw (takes_read.append c.read_json w')
    rw [List.nil_append] at hread
    rw [ofOctets, readWhole, hread]
    simp only [bind, Except.bind, dropSpaces_blank hw', List.isEmpty_nil, if_true]

/-- Between white space, a record that was made in a leap second four minutes too early is
read as one that was made a moment later. -/
theorem framed_early_leap_second_drifts :
    let oak : Record := { Record.ofId "oak" with createdAt := earlyLeapSecond }
    let moment : Timestamp :=
      ⟨.epoch, ⟨23, 56, 5, 333000000, by decide, by decide, by decide, by decide⟩⟩
    ofOctets ([0x20] ++ (Octets.ofString (Change.upsert oak).json ++ [0x0A])) =
      .ok (.upsert { oak with createdAt := moment }) ∧
    Change.upsert { oak with createdAt := moment } ≠ .upsert oak := by
  decide +kernel

end Change
end CatalogReplica
