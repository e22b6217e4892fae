/-
# CatalogReplica.Proofs.Delivery.Replies -- what a consumer learns from the service

An entry that a consumer reads off a reply, of a read or of a claim, is one of the
log, and lies no further than the group has been. What it decodes into is fixed by
the log: both replies show an entry in the same way.
-/
import CatalogReplica.EntryId.Lemmas
import CatalogReplica.Event
import CatalogReplica.Proofs.Delivery.Log
import CatalogReplica.Proofs.Queue.Success
import CatalogReplica.Proofs.Stream.Redelivered

namespace CatalogReplica

/-! ## What an entry of the log holds -/

/-- The fields of an entry, if its values are fields. -/
def LogEntry.fields? (x : LogEntry) : Option Fields :=
  Fields.ofAlternating? Reply.text? (x.values.map .bulk) ∅

/-- The change that an entry holds, if it holds one. -/
def LogEntry.change? (x : LogEntry) : Option Change :=
  x.fields?.bind fun fields => (Entry.decode ⟨x.id.text, fields, false⟩).toOption.map (·.2)

/-- An entry of the log in the reply to a claim. -/
theorem LogEntry.entry_reply (x : LogEntry) : Claimed.entry x.reply =
    match x.fields? with
    | some fields => .ok (some ⟨x.id.text, fields, false⟩)
    | none => .error .badFields := by
  have hfields : Fields.ofAlternating? Reply.text? (x.values.map .bulk) ∅ = x.fields? := rfl
  cases h : x.fields? with
  | none => simp [reply, Claimed.entry, Reply.text?_ofString, Claimed.fields, hfields, h, Except.map]
  | some fields =>
    simp [reply, Claimed.entry, Reply.text?_ofString, Claimed.fields, hfields, h, Except.map]

/-- The id of an entry was sent as a text, which names that id and no other. -/
theorem Entry.id_of_decode {e : Entry} {x : LogEntry} (hid : e.id = x.id.text) {id : EntryId}
    {c : Change} (hdecode : e.decode = .ok (id, c)) : id = x.id := by
  have hread := (Entry.decode_eq_ok hdecode).1
  rw [hid, EntryId.read?_text] at hread
  exact (Option.some.inj hread).symm

namespace Log

/-- An entry as it came is one of the log, up to the furthest position. -/
def Shows (l : Log) (e : Entry) : Prop :=
  ∃ x ∈ l.entries, x.id ≤ l.highest ∧ e.id = x.id.text ∧ x.fields? = some e.fields

/-- An event is the change of an entry of the log, up to the furthest position. -/
def Delivers (l : Log) (e : Event) : Prop :=
  ∃ x ∈ l.entries, x.id ≤ l.highest ∧ x.id = e.id ∧ x.change? = some e.change

theorem Delivers.le_highest {l : Log} {e : Event} (h : l.Delivers e) : e.id ≤ l.highest := by
  obtain ⟨x, -, hle, hid, -⟩ := h
  exact hid ▸ hle

/-- What a shown entry decodes into is an event of the log. -/
theorem Shows.delivers {l : Log} {e : Entry} (h : l.Shows e) {id : EntryId} {c : Change}
    (hdecode : e.decode = .ok (id, c)) : l.Delivers ⟨id, c⟩ := by
  obtain ⟨x, hx, hle, hid, hfields⟩ := h
  have hsame : e.decode = Entry.decode ⟨x.id.text, e.fields, false⟩ := by
    unfold Entry.decode
    rw [hid]
  have hread : id = x.id := Entry.id_of_decode hid hdecode
  refine ⟨x, hx, hle, hread.symm, ?_⟩
  unfold LogEntry.change?
  rw [hfields, Option.bind_some, ← hsame, hdecode]
  rfl

theorem Shows.grows {l l' : Log} (hgrows : l.Grows l') {e : Entry} (h : l.Shows e) :
    l'.Shows e := by
  obtain ⟨x, hx, hle, hrest⟩ := h
  exact ⟨x, hgrows.entries x hx, le_trans hle hgrows.highest, hrest⟩

theorem Delivers.grows {l l' : Log} (hgrows : l.Grows l') {e : Event} (h : l.Delivers e) :
    l'.Delivers e := by
  obtain ⟨x, hx, hle, hrest⟩ := h
  exact ⟨x, hgrows.entries x hx, le_trans hle hgrows.highest, hrest⟩

/-! ## Replies -/

/-- Names are read in the same way in both kinds of replies. -/
theorem ofAlternating?_bulk : ∀ (values : List Octets) (fields : Fields),
    Fields.ofAlternating? Reply.textLike? (values.map .bulk) fields =
      Fields.ofAlternating? Reply.text? (values.map .bulk) fields
  | [], _ => rfl
  | [_], _ => rfl
  | name :: value :: rest, fields => by
    have hname : Reply.textLike? (.bulk name) = Reply.text? (.bulk name) := rfl
    simp only [List.map_cons, Fields.ofAlternating?, hname]
    cases Reply.text? (.bulk name) with
    | none => rfl
    | some text => exact ofAlternating?_bulk rest _

/-- The entry that is read off a row with one entry. -/
theorem entry?_row (key : String) (x : LogEntry) :
    ReadReply.entry? (.array [.array [.bulk (Octets.ofString key), .array [x.reply]]]) =
      x.fields?.map fun fields => some ⟨x.id.text, fields, false⟩ := by
  have hfields : ReadReply.fields? (.array (x.values.map .bulk)) = x.fields? :=
    ofAlternating?_bulk x.values ∅
  cases hx : x.fields? with
  | none =>
    simp [ReadReply.entry?, ReadReply.items?, ReadReply.pairs?, ReadReply.alternating?,
      LogEntry.reply, Reply.textLike?_ofString, hfields, hx]
  | some fields =>
    simp [ReadReply.entry?, ReadReply.items?, ReadReply.pairs?, ReadReply.alternating?,
      ReadReply.lastValues, LogEntry.reply, Reply.textLike?_ofString, hfields, hx]

/-- The entry that a consumer takes from the answer to a read. -/
theorem shown_of_read {key : String} {x : LogEntry} {e : Entry}
    (h : Consumer.read (.answered (.array [.array [.bulk (Octets.ofString key),
      .array [x.reply]]])) = .ok (some e)) : e.id = x.id.text ∧ x.fields? = some e.fields := by
  simp only [Consumer.read, Outcome.value, Outcome.reply, bind, Except.bind, entry?_row] at h
  cases hx : x.fields? with
  | none => simp [hx] at h
  | some fields =>
    simp only [hx, Option.map_some, Except.ok.injEq, Option.some.injEq] at h
    subst h
    exact ⟨rfl, rfl⟩

/-- The entries that are read off a claim. -/
theorem shown_of_entryList {xs : List LogEntry} {es : List Entry}
    (h : Claimed.entryList (xs.map LogEntry.reply) = .ok es) :
    ∀ e ∈ es, ∃ x ∈ xs, e.id = x.id.text ∧ x.fields? = some e.fields := by
  induction xs generalizing es with
  | nil =>
    cases h
    intro e he
    cases he
  | cons x xs ih =>
    rw [List.map_cons, Claimed.entryList, x.entry_reply] at h
    cases hx : x.fields? with
    | none => simp [hx, bind, Except.bind] at h
    | some fields =>
      cases hrest : Claimed.entryList (xs.map LogEntry.reply) with
      | error f => simp [hx, hrest, bind, Except.bind] at h
      | ok rest =>
        simp only [hx, hrest, bind, Except.bind, Except.ok.injEq, Option.toList_some,
          List.singleton_append] at h
        subst h
        intro e he
        rcases List.mem_cons.mp he with rfl | he
        · exact ⟨x, List.mem_cons_self, rfl, hx⟩
        · obtain ⟨y, hy, hshown⟩ := ih hrest e he
          exact ⟨y, List.mem_cons_of_mem x hy, hshown⟩

/-- Of several claimed entries a consumer takes the last. -/
theorem shown_of_claimed {cursor : String} {xs : List LogEntry} {c c' : Consumer} {e : Entry}
    (h : c.claimed (.answered (.array [.bulk (Octets.ofString cursor),
      .array (xs.map LogEntry.reply), .array []])) = .ok (some e, c')) :
    ∃ x ∈ xs, e.id = x.id.text ∧ x.fields? = some e.fields := by
  simp only [Consumer.claimed, Outcome.reply, bind, Except.bind, Claimed.ofReply,
    List.head?_cons, Option.bind_some, Reply.text?_ofString, List.tail_cons] at h
  cases hlist : Claimed.entryList (xs.map LogEntry.reply) with
  | error f => simp [hlist, Except.map] at h
  | ok es =>
    simp only [hlist, Except.map, Except.ok.injEq, Prod.mk.injEq] at h
    obtain ⟨last, hlast, rfl⟩ := Option.map_eq_some_iff.mp h.1
    exact shown_of_entryList hlist last (List.mem_of_getLast? hlast)

/-- What a consumer learns from the outcome of a command is so. -/
def Tells (l : Log) (o : Outcome) : Command → Prop
  | .read .. => ∀ e, Consumer.read o = .ok (some e) → l.Shows e
  | .claim .. => ∀ (c c' : Consumer) e, c.claimed o = .ok (some e, c') → l.Shows e
  | _ => True

theorem Tells.grows {l l' : Log} (hgrows : l.Grows l') {o : Outcome} {c : Command}
    (h : l.Tells o c) : l'.Tells o c := by
  cases c with
  | read key node block => exact fun e he => (h e he).grows hgrows
  | claim key node minIdle cursor => exact fun c c' e he => (h c c' e he).grows hgrows
  | _ => trivial

/-- Nothing is learned from a command that has failed. -/
theorem tells_of_reply_error {l : Log} {o : Outcome}
    (h : ∀ operation, ∃ f, o.reply operation = .error f) (c : Command) : l.Tells o c := by
  cases c with
  | read key node block =>
    intro e he
    obtain ⟨f, hf⟩ := h "XREADGROUP"
    simp [Consumer.read, Outcome.value, hf, bind, Except.bind] at he
  | claim key node minIdle cursor =>
    intro c c' e he
    obtain ⟨f, hf⟩ := h "XAUTOCLAIM"
    simp [Consumer.claimed, hf, bind, Except.bind] at he
  | _ => trivial

/-! ## Every command -/

section Serve

variable {Counts : EntryId → Receipt → Prop} {l : Log}

/-- What a command may ask for: a position that the group has had, and an
acknowledgement on behalf of somebody who counts. -/
def Permits (Counts : EntryId → Receipt → Prop) (l : Log) (r : Receipt) : Command → Prop
  | .position _ _ id => ∀ i ∈ id, i ≤ l.highest
  | .acknowledge _ _ id => Counts id r
  | _ => True

/-- The service keeps the group sound, drops no entry, and tells what is so. -/
theorem Sound.serve (h : l.Sound Counts) {r : Receipt} {c : Command} (hc : l.Permits Counts r c)
    {s : Choice} {l' : Log} {o : Outcome} (hserve : l.serve r c s = some (l', o)) :
    l'.Sound Counts ∧ l.Grows l' ∧ l'.Tells o c := by
  cases serves_of_serve hserve with
  | refuses c refusal => exact ⟨h, .refl l, tells_of_reply_error (fun _ => ⟨_, rfl⟩) c⟩
  | creates key node hg => exact ⟨h.creates hg, grows_put l _, trivial⟩
  | places key node id hg => exact ⟨h.places hg hc, grows_put l _, trivial⟩
  | readsNothing key node block =>
    refine ⟨h, .refl l, ?_⟩
    intro e he
    cases he
  | reads key node block hg hx =>
    refine ⟨h.reads hg hx, grows_put l _, ?_⟩
    intro e he
    obtain ⟨hid, hfields⟩ := shown_of_read he
    exact ⟨_, List.mem_of_find?_eq_some hx, le_max_right _ _, hid, hfields⟩
  | claims key node minIdle start cursor hg hids =>
    refine ⟨h, .refl l, ?_⟩
    intro c c' e he
    obtain ⟨x, hx, hid, hfields⟩ := shown_of_claimed he
    obtain ⟨hmem, hchosen⟩ := List.mem_filter.mp hx
    have hpending : l.Pending x.id :=
      (pending_iff hg x.id).mpr (hids x.id (of_decide_eq_true hchosen))
    exact ⟨x, hmem, h.pending_le hpending, hid, hfields⟩
  | acknowledges key node hg hid =>
    exact ⟨h.acknowledges hg hc, ⟨fun _ hx => hx, le_refl _⟩, trivial⟩
  | acknowledgesNothing key node id => exact ⟨h, .refl l, trivial⟩
  | appends key payload hl =>
    obtain ⟨hsound, hgrows⟩ := h.append hl
    exact ⟨hsound, hgrows, trivial⟩

end Serve
end Log
end CatalogReplica
