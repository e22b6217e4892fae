/-
# CatalogReplica.Proofs.Wire.RoundTrip -- what is written is read back

An object whose members are written one behind the other is read back by a
shape as soon as each member's value is read back in front of any rest. From
this and the lemmas about strings and timestamps it follows that every record
and every change is read back from its JSON text, with the times that theirs
settle to. So nothing is lost where every leap second ends a minute.
-/
import CatalogReplica.Change.Json
import CatalogReplica.Json.Quoted.Lemmas
import CatalogReplica.Time.Timestamp.Lemmas

namespace CatalogReplica

namespace Json

/-! ## Values -/

/-- A text is read back, whatever it is expected to be and whatever follows. -/
theorem readText_written (expected text : String) (rest : Octets) :
    readText expected (Octets.ofChars (stringChars text) ++ rest) = .ok (text, rest) := by
  show readText expected
    (quote :: (Octets.ofChars (text.toList.flatMap escapedChar ++ ['"']) ++ rest)) = _
  unfold readText
  rw [dropSpaces_cons_of_not rfl]
  exact stringBody_written text rest

theorem readBool_written (b : Bool) (rest : Octets) :
    readBool (Octets.ofChars (boolChars b) ++ rest) = .ok (b, rest) := by
  cases b with
  | false => rfl
  | true => rfl

theorem readTimestamp_written (t : Timestamp) (rest : Octets) :
    readTimestamp (Octets.ofChars (stringChars t.text) ++ rest) = .ok (t.settled, rest) := by
  unfold readTimestamp
  rw [readText_written]
  simp only [bind, Except.bind, Timestamp.read_text]

/-- A named value is read back from its name. -/
theorem readChoice_written {α : Type} {known : List (String × α)} {name : String} {a : α}
    (h : known.lookup name = some a) (rest : Octets) :
    readChoice known (Octets.ofChars (stringChars name) ++ rest) = .ok (a, rest) := by
  show readChoice known
    (quote :: (Octets.ofChars (name.toList.flatMap escapedChar ++ ['"']) ++ rest)) = _
  unfold readChoice
  rw [dropSpaces_cons_of_not rfl]
  have picked : pick known name = .ok a := by
    unfold pick
    rw [h]
  simp only [beq_self_eq_true, if_true, stringBody_written, bind, Except.bind, picked]

/-- A member that is kept in one place is read back when its value is. -/
theorem Member.read_written {σ β : Type} {key : String} {isRequired : Bool} {get : σ → Option β}
    {set : σ → β → σ} {value : Reader β} {chars : List Char} {b : β}
    (h : ∀ rest, value (Octets.ofChars chars ++ rest) = .ok (b, rest)) (p : σ) (rest : Octets) :
    (Member.of key isRequired get set value).read p (Octets.ofChars chars ++ rest) =
      .ok (set p b, rest) := by
  unfold Member.of
  simp only [h, Except.map]

/-! ## Objects -/

/-- No character takes less than one octet. -/
theorem length_le_ofChars (cs : List Char) : cs.length ≤ (Octets.ofChars cs).length := by
  induction cs with
  | nil => exact Nat.le_refl 0
  | cons c cs ih =>
    have one : 1 ≤ (Octets.ofChar c).length := by
      unfold Octets.ofChar
      dsimp only
      split
      · exact Nat.le_refl 1
      · split
        · exact (by decide : 1 ≤ 2)
        · split
          · exact (by decide : 1 ≤ 3)
          · exact (by decide : 1 ≤ 4)
    rw [Octets.ofChars_cons, List.length_append, List.length_cons]
    omega

/-- The members from behind the opening quote of the first key to the end of
the object. -/
def fromFirstKey (w : Written) : List Written → List Char
  | [] => w.1.toList.flatMap escapedChar ++ ['"'] ++ (':' :: (w.2 ++ [Char.ofNat 0x7D]))
  | v :: vs =>
    w.1.toList.flatMap escapedChar ++ ['"'] ++ (':' :: (w.2 ++ ',' :: '"' :: fromFirstKey v vs))

theorem objectChars_cons (w : Written) (ws : List Written) :
    objectChars (w :: ws) = Char.ofNat 0x7B :: '"' :: fromFirstKey w ws := by
  have joined : ∀ (w : Written) (ws : List Written),
      (((w :: ws).map fun v => stringChars v.1 ++ ':' :: v.2).intersperse [',']).flatten ++
        [Char.ofNat 0x7D] = '"' :: fromFirstKey w ws := by
    intro w ws
    -- on the members behind the first, whose quote is what the comma is followed by
    induction ws generalizing w with
    | nil => simp [fromFirstKey, stringChars]
    | cons v vs ih =>
      have more := ih v
      simp only [List.map_cons, List.intersperse_cons_cons, List.flatten_cons, List.append_assoc]
        at more ⊢
      rw [more]
      simp [fromFirstKey, stringChars]
  show Char.ofNat 0x7B ::
    ((((w :: ws).map fun v => stringChars v.1 ++ ':' :: v.2).intersperse [',']).flatten ++
      [Char.ofNat 0x7D]) = _
  rw [joined]

namespace Shape

variable {σ α : Type} (shape : Shape σ α)

/-- From `p` gathered, reading the written members in their order ends with `q`
gathered: each has a known key, has not been read, and its value is read back
in front of any rest. -/
inductive Gathers : σ → List Written → σ → Prop
  | nil (p : σ) : Gathers p [] p
  | cons {p p' q : σ} {key : String} {value : List Char} {ws : List Written} (member : Member σ)
      (known : shape.members.find? (·.key == key) = some member)
      (fresh : member.isPresent p = false)
      (read : ∀ rest, member.read p (Octets.ofChars value ++ rest) = .ok (p', rest))
      (more : Gathers p' ws q) : Gathers p ((key, value) :: ws) q

variable {shape}

/-- One written member is read into what has been gathered. -/
theorem readMember_written {p p' : σ} {key : String} {value : List Char} {member : Member σ}
    (known : shape.members.find? (·.key == key) = some member)
    (fresh : member.isPresent p = false)
    (read : ∀ rest, member.read p (Octets.ofChars value ++ rest) = .ok (p', rest))
    (rest : Octets) :
    shape.readMember key p (colon :: (Octets.ofChars value ++ rest)) = .ok (p', rest) := by
  unfold readMember
  rw [known]
  have past : readColon (colon :: (Octets.ofChars value ++ rest)) =
      .ok (Octets.ofChars value ++ rest) := by
    unfold readColon
    rw [dropSpaces_cons_of_not rfl]
    rfl
  simp only [fresh, past, bind, Except.bind]
  exact read rest

/-- The octets of a member in front of what stands behind it. -/
theorem ofChars_member (w : Written) (tail : List Char) (rest : Octets) :
    Octets.ofChars (w.1.toList.flatMap escapedChar ++ ['"'] ++ (':' :: (w.2 ++ tail))) ++ rest =
      Octets.ofChars (w.1.toList.flatMap escapedChar ++ ['"']) ++
        colon :: (Octets.ofChars w.2 ++ (Octets.ofChars tail ++ rest)) := by
  have one : Octets.ofChar ':' = [colon] := rfl
  rw [Octets.ofChars_append, Octets.ofChars_cons, Octets.ofChars_append w.2, one]
  simp only [List.append_assoc, List.cons_append, List.nil_append]

/-- All written members are read; each takes one unit of fuel. -/
theorem readMembers_written {ws : List Written} :
    ∀ {w : Written} {p q : σ} {fuel : Nat}, shape.Gathers p (w :: ws) q → ws.length < fuel →
      ∀ rest, shape.readMembers fuel p (Octets.ofChars (fromFirstKey w ws) ++ rest) =
        .ok (q, rest) := by
  induction ws with
  | nil =>
    intro w p q fuel gathers enough rest
    obtain ⟨fuel, rfl⟩ : ∃ n, fuel = n + 1 := ⟨fuel - 1, by omega⟩
    cases gathers with
    | @cons _ p' _ key value _ member known fresh read more =>
      cases more
      have closing : Octets.ofChars [Char.ofNat 0x7D] ++ rest = closeObject :: rest := rfl
      -- the key, its value, and then the bracket
      rw [fromFirstKey, ofChars_member, readMembers, stringBody_written, closing]
      simp only [bind, Except.bind, readMember_written known fresh read,
        dropSpaces_cons_of_not (show isSpace closeObject = false from rfl), beq_self_eq_true,
        if_true]
  | cons v vs ih =>
    intro w p q fuel gathers enough rest
    obtain ⟨fuel, rfl⟩ : ∃ n, fuel = n + 1 := ⟨fuel - 1, by omega⟩
    cases gathers with
    | @cons _ p' _ key value _ member known fresh read more =>
      have next : Octets.ofChars (',' :: '"' :: fromFirstKey v vs) ++ rest =
          comma :: quote :: (Octets.ofChars (fromFirstKey v vs) ++ rest) := rfl
      -- the key, its value, and then a comma with the next key
      rw [fromFirstKey, ofChars_member, readMembers, stringBody_written, next]
      simp only [bind, Except.bind, readMember_written known fresh read,
        dropSpaces_cons_of_not (show isSpace comma = false from rfl),
        dropSpaces_cons_of_not (show isSpace quote = false from rfl), beq_self_eq_true, if_true,
        show (comma == closeObject) = false from rfl, Bool.false_eq_true, if_false]
      exact ih more (by simp only [List.length_cons] at enough; omega) rest

theorem length_le_fromFirstKey (w : Written) (ws : List Written) :
    ws.length < (fromFirstKey w ws).length := by
  induction ws generalizing w with
  | nil =>
    simp only [fromFirstKey, List.length_cons, List.length_append]
    omega
  | cons v vs ih =>
    have := ih v
    simp only [fromFirstKey, List.length_cons, List.length_append]
    omega

/-- An object is read back from its members, given that every required one is
among them. -/
theorem read_written {w : Written} {ws : List Written} {q : σ}
    (gathers : shape.Gathers shape.start (w :: ws) q) (complete : shape.missing q = [])
    (rest : Octets) :
    shape.read (Octets.ofChars (objectChars (w :: ws)) ++ rest) = .ok (shape.finish q, rest) := by
  have opened : Octets.ofChars (objectChars (w :: ws)) ++ rest =
      openObject :: quote :: (Octets.ofChars (fromFirstKey w ws) ++ rest) := by
    rw [objectChars_cons]
    rfl
  have enough : ws.length < (Octets.ofChars (fromFirstKey w ws) ++ rest).length + 1 := by
    have := length_le_fromFirstKey w ws
    have := length_le_ofChars (fromFirstKey w ws)
    rw [List.length_append]
    omega
  have members := readMembers_written gathers enough rest
  rw [opened, read, dropSpaces_cons_of_not rfl]
  simp only [beq_self_eq_true, if_true, readObject,
    dropSpaces_cons_of_not (show isSpace quote = false from rfl),
    show (quote == closeObject) = false from rfl, Bool.false_eq_true, if_false, members, bind,
    Except.bind, complete]

end Shape
end Json

open Json

namespace Record

/-! ## Records -/

/-- What is left of a record when it is written and read. -/
def settled (r : Record) : Record :=
  { r with createdAt := r.createdAt.settled, updatedAt := r.updatedAt.settled }

/-- Every leap second in a record ends a minute. -/
structure LeapsEndMinutes (r : Record) : Prop where
  createdAt : r.createdAt.LeapEndsMinute
  updatedAt : r.updatedAt.LeapEndsMinute

theorem settled_eq_iff {r : Record} : r.settled = r ↔ r.LeapsEndMinutes := by
  constructor
  · intro h
    exact ⟨Timestamp.settled_eq_iff.mp (congrArg createdAt h),
      Timestamp.settled_eq_iff.mp (congrArg updatedAt h)⟩
  · intro h
    rw [settled, Timestamp.settled_eq_iff.mpr h.createdAt, Timestamp.settled_eq_iff.mpr h.updatedAt]

theorem chars_settled (r : Record) : r.settled.chars = r.chars := by
  simp only [chars, written, settled, Timestamp.text_settled]

/-- The eight members of a record, once they have been read. -/
def parts (r : Record) : Parts where
  id := some r.id
  active := some r.active
  category := some r.category
  name := some r.name
  desc := some r.desc
  value := some r.value
  createdAt := some r.createdAt
  updatedAt := some r.updatedAt

theorem gathers_written (r : Record) : shape.Gathers {} r.written r.settled.parts := by
  have text (value : String) (rest : Octets) :
      readString (Octets.ofChars (stringChars value) ++ rest) = .ok (value, rest) :=
    readText_written "a string" value rest
  refine .cons _ rfl rfl (Member.read_written (text r.id) _) ?_
  refine .cons _ rfl rfl (Member.read_written (readBool_written r.active) _) ?_
  refine .cons _ rfl rfl (Member.read_written (text r.category) _) ?_
  refine .cons _ rfl rfl (Member.read_written (text r.name) _) ?_
  refine .cons _ rfl rfl (Member.read_written (text r.desc) _) ?_
  refine .cons _ rfl rfl (Member.read_written (text r.value) _) ?_
  refine .cons _ rfl rfl (Member.read_written (readTimestamp_written r.createdAt) _) ?_
  refine .cons _ rfl rfl (Member.read_written (readTimestamp_written r.updatedAt) _) ?_
  exact .nil _

/-- A record is read back from its text, whatever follows. -/
theorem read_written (r : Record) (rest : Octets) :
    read (Octets.ofChars r.chars ++ rest) = .ok (r.settled, rest) :=
  Shape.read_written r.gathers_written rfl rest

end Record

namespace Change

/-! ## Changes -/

/-- What is left of a change when it is written and read. -/
def settled (c : Change) : Change :=
  { c with record := c.record.map Record.settled, timestamp := c.timestamp.settled }

/-- Every leap second in a change ends a minute. -/
structure LeapsEndMinutes (c : Change) : Prop where
  record : ∀ r ∈ c.record, r.LeapsEndMinutes
  timestamp : c.timestamp.LeapEndsMinute

theorem settled_eq_iff {c : Change} : c.settled = c ↔ c.LeapsEndMinutes := by
  obtain ⟨domain, action, record, timestamp⟩ := c
  have hrecord : record.map Record.settled = record ↔ ∀ r ∈ record, r.LeapsEndMinutes := by
    cases record with
    | none => simp
    | some r => simp [Record.settled_eq_iff]
  simp only [settled, Change.mk.injEq, true_and]
  rw [hrecord, Timestamp.settled_eq_iff]
  exact ⟨fun h => ⟨h.1, h.2⟩, fun h => ⟨h.record, h.timestamp⟩⟩

/-- What is left of a change has the text of the change. -/
theorem json_settled (c : Change) : c.settled.json = c.json := by
  cases hrecord : c.record with
  | none => simp [json, chars, written, settled, hrecord, Timestamp.text_settled]
  | some r => simp [json, chars, written, settled, hrecord, Record.chars_settled,
      Timestamp.text_settled]

/-- The members of a change, once they have been read. -/
def parts (c : Change) : Parts where
  domain := some c.domain
  action := some c.action
  record := c.record.map some
  timestamp := some c.timestamp

theorem gathers_written (c : Change) : shape.Gathers {} c.written c.settled.parts := by
  have domain (rest : Octets) :
      Domain.read (Octets.ofChars (stringChars c.domain.name) ++ rest) = .ok (c.domain, rest) := by
    unfold Domain.read
    rw [readString, readText_written]
    rfl
  have action (rest : Octets) :
      Action.read (Octets.ofChars (stringChars c.action.name) ++ rest) = .ok (c.action, rest) := by
    refine readChoice_written ?_ rest
    cases c.action with
    | upsert => rfl
    | delete => rfl
  have record (r : Record) (rest : Octets) :
      readOptional Record.read (Octets.ofChars r.chars ++ rest) = .ok (some r.settled, rest) := by
    have whole := r.read_written rest
    have opened : Octets.ofChars r.chars ++ rest =
        openObject :: (Octets.ofChars r.chars ++ rest).tail := rfl
    rw [opened] at whole ⊢
    unfold readOptional
    rw [dropSpaces_cons_of_not rfl]
    simp only [show (openObject == (0x6E : UInt8)) = false from rfl, Bool.false_eq_true, if_false,
      whole, Except.map]
  unfold written
  -- the record is left out where there is none, and then its member stays unread
  refine .cons _ rfl rfl (Member.read_written domain _) ?_
  refine .cons _ rfl rfl (Member.read_written action _) ?_
  cases h : c.record with
  | none =>
    refine .cons _ rfl rfl (Member.read_written (readTimestamp_written c.timestamp) _) ?_
    have read : c.settled.parts =
        ⟨some c.domain, some c.action, none, some c.timestamp.settled⟩ := by
      rw [parts, settled, h, Option.map_none, Option.map_none]
    rw [read]
    exact .nil _
  | some r =>
    refine .cons _ rfl rfl (Member.read_written (record r) _) ?_
    refine .cons _ rfl rfl (Member.read_written (readTimestamp_written c.timestamp) _) ?_
    have read : c.settled.parts =
        ⟨some c.domain, some c.action, some (some r.settled), some c.timestamp.settled⟩ := by
      rw [parts, settled, h, Option.map_some, Option.map_some]
    rw [read]
    exact .nil _

theorem finish_parts (c : Change) : shape.finish c.parts = c := by
  obtain ⟨domain, action, record, timestamp⟩ := c
  cases record with
  | none => rfl
  | some r => rfl

/-- A change is read from its JSON text up to the last octet of it. -/
theorem read_json (c : Change) : read (Octets.ofString c.json) = .ok (c.settled, []) := by
  have complete : shape.missing c.settled.parts = [] := rfl
  have whole : read (Octets.ofChars c.chars ++ []) = .ok (shape.finish c.settled.parts, []) :=
    Shape.read_written c.gathers_written complete []
  rw [List.append_nil, finish_parts] at whole
  rwa [json, Octets.ofString, String.toList_ofList]

/-- A change is read back from its JSON text, with the times that its times settle to. -/
theorem ofOctets_json (c : Change) : ofOctets (Octets.ofString c.json) = .ok c.settled := by
  rw [ofOctets, readWhole, read_json]
  rfl

end Change
end CatalogReplica
