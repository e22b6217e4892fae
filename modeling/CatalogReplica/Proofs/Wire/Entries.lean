/-
# CatalogReplica.Proofs.Wire.Entries -- an entry holds what was published

The text of an id names that id, and the text of a change spells what the change settles
to. So an entry that carries both is decoded into both, whatever other fields it has and
in whichever of the two forms its payload comes. This closes the circle: what is published
is decoded unchanged as long as every leap second in it ends a minute, and what was
decoded, from any spelling, can be published again without a difference.
-/
import CatalogReplica.EntryId.Lemmas
import CatalogReplica.Proofs.Queue.Success
import CatalogReplica.Proofs.Wire.Settled
import CatalogReplica.Stream.Entry

namespace CatalogReplica

/-- The payload among some fields is this text. A payload comes as octets, or as a
simple text. -/
def Fields.Carries (fields : Fields) (text : String) : Prop :=
  fields[payloadField]? = some (.bulk (Octets.ofString text)) ∨
    fields[payloadField]? = some (.simple text)

namespace Entry

theorem payload_of_carries {fields : Fields} {text : String} (h : fields.Carries text) :
    payload fields = .ok (Octets.ofString text) := by
  unfold payload
  rcases h with hbulk | hsimple
  · rw [hbulk]
  · rw [hsimple]

/-- An entry with the text of an id and that of a change holds this id and what the change
settles to. -/
theorem decode_of_carries (id : EntryId) (c : Change) {fields : Fields}
    (h : fields.Carries c.json) (redelivered : Bool) :
    (Entry.mk id.text fields redelivered).decode = .ok (id, c.settled) := by
  unfold decode
  dsimp only
  rw [EntryId.read?_text]
  simp only [payload_of_carries h, bind, Except.bind, Change.ofOctets_json]

/-- No entry holds a leap second that does not end a minute. -/
theorem leapsEndMinutes_of_decode {e : Entry} {id : EntryId} {c : Change}
    (h : e.decode = .ok (id, c)) : c.LeapsEndMinutes := by
  unfold decode at h
  split at h
  · cases h
  · obtain ⟨s, -, hpayload⟩ := exists_of_bind_eq_ok h
    split at hpayload
    · cases hpayload
      exact Change.leapsEndMinutes_of_ofOctets ‹_›
    · cases hpayload

end Entry

namespace Change

/-- Fields with a payload in simple form, behind another field. -/
def simpleFields (text : String) : Fields :=
  ((∅ : Fields).insert "origin" .nil).insert payloadField (.simple text)

theorem simpleFields_carries (text : String) : (simpleFields text).Carries text :=
  .inr Std.TreeMap.getElem?_insert_self

/-- A change survives the wire but for leap seconds that do not end a minute, which have
the text of the second behind them and become that second. Under any id an entry that
carries the text of a change is decoded into this id and what the change settles to, which
is the change itself exactly if every leap second in it ends a minute. In the same way what
a queue publishes comes back as it was stamped. A change that came out of some entry,
however it was spelled there, has no other leap seconds and comes out of its own text
again. -/
theorem survives_wire (id : EntryId) (c : Change) :
    (c.settled = c ↔ c.LeapsEndMinutes) ∧ c.settled.json = c.json ∧
    (∀ (fields : Fields) (redelivered : Bool), fields.Carries c.json →
      (Entry.mk id.text fields redelivered).decode = .ok (id, c.settled)) ∧
    (∀ (q : Queue) (now : Timestamp) (command : Command), q.publish c now = .ok command →
      ∃ text, command = .append q.consumer.streamKey text ∧
        ∀ (fields : Fields) (redelivered : Bool), fields.Carries text →
          (Entry.mk id.text fields redelivered).decode = .ok (id, (c.publishedAt now).settled)) ∧
    (∀ e : Entry, e.decode = .ok (id, c) → c.LeapsEndMinutes ∧
      ∀ (fields : Fields) (redelivered : Bool), fields.Carries c.json →
        (Entry.mk id.text fields redelivered).decode = e.decode) := by
  refine ⟨settled_eq_iff, c.json_settled, ?_, ?_, ?_⟩
  · intro fields redelivered hcarries
    exact Entry.decode_of_carries id c hcarries redelivered
  · intro q now command hpublish
    refine ⟨(c.publishedAt now).json, Queue.publish_eq_ok hpublish, ?_⟩
    intro fields redelivered hcarries
    exact Entry.decode_of_carries id (c.publishedAt now) hcarries redelivered
  · intro e hdecode
    have hends := Entry.leapsEndMinutes_of_decode hdecode
    refine ⟨hends, fun fields redelivered hcarries => ?_⟩
    rw [hdecode, Entry.decode_of_carries id c hcarries redelivered, settled_eq_iff.mpr hends]

/-- A leap second four minutes before the end of an hour. -/
def earlyLeapSecond : Timestamp where
  date := .epoch
  time := ⟨23, 56, 4, 1333000000, by decide, by decide, by decide, by decide⟩

/-- It has the text of a moment in the second behind it, and so a change that was published
in it comes back as one that was published in that moment. -/
theorem early_leap_second_lost :
    let id : EntryId := ⟨1, 0, by decide, by decide⟩
    let change : Change := ⟨.catalogs, .upsert, none, earlyLeapSecond⟩
    let moment : Timestamp :=
      ⟨.epoch, ⟨23, 56, 5, 333000000, by decide, by decide, by decide, by decide⟩⟩
    earlyLeapSecond.text = "1970-01-01T23:56:05.333Z" ∧
    (Entry.mk id.text (simpleFields change.json) false).decode =
      .ok (id, { change with timestamp := moment }) ∧
    { change with timestamp := moment } ≠ change := by
  intro id change moment
  have hsettled : change.settled = { change with timestamp := moment } := by decide
  refine ⟨by decide +kernel, ?_, by decide⟩
  rw [← hsettled]
  exact Entry.decode_of_carries id change (simpleFields_carries change.json) false

/-! ## Corners of the calendar and of the alphabet -/

/-- A leap second, and a bit of it, at the end of a year of five digits. -/
def farLeapSecond : Timestamp where
  date := ⟨10000, 12, 31, by decide⟩
  time := ⟨23, 59, 59, 1500000000, by decide, by decide, by decide, by decide⟩

/-- The first instant that there is, but for a nanosecond. -/
def dawn : Timestamp where
  date := ⟨-262143, 1, 1, by decide⟩
  time := { TimeOfDay.midnight with nano := 1, nano_lt := by decide }

/-- A record of which nearly every member needs care in writing. -/
def awkwardRecord : Record where
  id := "\x00"
  category := "\"quoted\" \\ \x1f"
  name := "\u00e9\u4e2d\ud55c"
  desc := "\t\n\r\x08\x0c\x7f"
  value := "\u2028 \ufeff"
  createdAt := dawn
  updatedAt := farLeapSecond

/-- A removal of that record, in a domain that is unknown so far. -/
def awkward : Change := ⟨⟨"prices\x01"⟩, .delete, some awkwardRecord, farLeapSecond⟩

/-- A queue that only publishes, with its connection. -/
def onlineQueue : Queue where
  settings := { nodeId := "node", writeOnly := true }
  attemptLimit := QueueSettings.defaultConnection
  consumer := ⟨"shop:catalogs", "node", QueueSettings.defaultAckWait,
    QueueSettings.defaultBlock, "0-0"⟩
  state := .connected
  isConnected := true
  resume := none
  firstAttempt := none
  recovery := none
  reader := none
  forwarder := none
  input := none
  output := none
  isClosing := false
  isReleased := false
  measurements := []
  notices := []

/-- The removal is decoded as it is, and as it was stamped when it was published; and
what was decoded can be written and decoded once more. -/
theorem awkward_survives_wire :
    let last : EntryId := ⟨18446744073709551615, 0, by decide, by decide⟩
    let entry (c : Change) := Entry.mk "18446744073709551615-0" (simpleFields c.json) true
    farLeapSecond.text = "+10000-12-31T23:59:60.500Z" ∧
    dawn.text = "-262143-01-01T00:00:00.000000001Z" ∧
    (entry awkward).decode = .ok (last, awkward) ∧
    (∃ command text, onlineQueue.publish awkward dawn = .ok command ∧
      command = .append "shop:catalogs" text ∧
      (Entry.mk "18446744073709551615-0" (simpleFields text) true).decode =
        .ok (last, { awkward with timestamp := dawn })) ∧
    (Entry.mk "18446744073709551615-0" (simpleFields awkward.json) false).decode =
      (entry awkward).decode := by
  intro last entry
  have hid : last.text = "18446744073709551615-0" := by decide +kernel
  obtain ⟨hsettled, -, hdecode, hpublish, hagain⟩ := survives_wire last awkward
  have hends : awkward.settled = awkward := by decide
  have hstamp : (awkward.publishedAt dawn).settled = awkward.publishedAt dawn := by decide
  rw [hid] at hdecode hpublish hagain
  have hfirst : (entry awkward).decode = .ok (last, awkward) :=
    (hdecode _ true (simpleFields_carries awkward.json)).trans (by rw [hends])
  refine ⟨by decide +kernel, by decide +kernel, hfirst, ?_, ?_⟩
  · obtain ⟨text, hcommand, hstamped⟩ := hpublish onlineQueue dawn _ rfl
    rw [hstamp] at hstamped
    exact ⟨_, text, rfl, hcommand, hstamped _ true (simpleFields_carries text)⟩
  · exact (hagain (entry awkward) hfirst).2 _ false (simpleFields_carries awkward.json)

end Change
end CatalogReplica
