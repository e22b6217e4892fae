/-
# CatalogReplica.Proofs.Json.Readers -- what a reader takes off the input

A reader takes white space and one value off the front of the input. `Takes` says which
values it takes, and as what: it gives a result exactly where such a value stands, and what
follows the value is handed on and decides nothing. So a reader that gives a result gives the
same on a longer input, and what it makes of a value does not depend on where the value
stands.
-/
import CatalogReplica.Proofs.Json.Skipping
import CatalogReplica.Proofs.Json.Strings
import CatalogReplica.Proofs.Runs
import CatalogReplica.Record.Json

namespace CatalogReplica.Json

variable {α β : Type}

/-! ## Results -/

theorem exists_of_map {m : Except Fault α} {f : α → β} {b : β} (h : m.map f = .ok b) :
    ∃ a, m = .ok a ∧ f a = b := by
  cases m with
  | error fault => cases h
  | ok a => exact ⟨a, rfl, Except.ok.inj h⟩

/-! ## Readers -/

/-- A reader takes white space and a value that stands for what it gives. -/
structure Takes (r : Reader α) (P : α → Octets → Prop) : Prop where
  isValue : ∀ {a v}, P a v → IsValue v
  eq_ok_iff : ∀ {s a rest},
    r s = .ok (a, rest) ↔ ∃ w v, IsBlank w ∧ P a v ∧ s = w ++ (v ++ rest)

/-- White space that is dropped in front of an octet. -/
theorem dropSpaces_eq_cons {b : UInt8} {s t : Octets} :
    dropSpaces s = b :: t ↔ isSpace b = false ∧ ∃ w, IsBlank w ∧ s = w ++ b :: t := by
  constructor
  · intro h
    obtain ⟨w, hw, hs⟩ := exists_blank_append s
    exact ⟨isSpace_of_dropSpaces h, w, hw, by rw [← h, ← hs]⟩
  · rintro ⟨hb, w, hw, rfl⟩
    exact dropSpaces_append_cons hw hb t

/-- A value starts with something that is no white space. -/
theorem IsValue.dropSpaces_append {v w : Octets} (hv : IsValue v) (hw : IsBlank w)
    (rest : Octets) : dropSpaces (w ++ (v ++ rest)) = v ++ rest := by
  obtain ⟨b, t, rfl, hb, -⟩ := Grammar.opens hv
  exact dropSpaces_append_cons hw hb (t ++ rest)

theorem IsValue.eq_nil_of_append {v v' w : Octets} (hv : IsValue v) (hw : IsBlank w)
    (h : v = w ++ v') : w = [] := by
  obtain ⟨b, t, rfl, hb, -⟩ := Grammar.opens hv
  cases w with
  | nil => rfl
  | cons c w =>
    obtain ⟨rfl, -⟩ := List.cons.inj h
    exact absurd (hw b List.mem_cons_self) (by rw [hb]; exact Bool.false_ne_true)

namespace Takes

variable {r : Reader α} {P : α → Octets → Prop}

theorem reads (h : Takes r P) {w v : Octets} (hw : IsBlank w) {a : α} (ha : P a v)
    (rest : Octets) : r (w ++ (v ++ rest)) = .ok (a, rest) :=
  h.eq_ok_iff.mpr ⟨w, v, hw, ha, rfl⟩

/-- A value stands for one thing only. -/
theorem unique (h : Takes r P) {a b : α} {v : Octets} (ha : P a v) (hb : P b v) : a = b := by
  have hread := h.reads isBlank_nil ha []
  rw [h.reads isBlank_nil hb []] at hread
  exact (Prod.mk.inj (Except.ok.inj hread)).1.symm

/-- What a value is read as, whatever follows it. -/
theorem spells_iff (h : Takes r P) {v : Octets} (hv : IsValue v) {a : α} :
    P a v ↔ ∀ rest, r (v ++ rest) = .ok (a, rest) := by
  constructor
  · exact fun ha rest => h.reads isBlank_nil ha rest
  · intro hr
    obtain ⟨w, v', hw, ha, hparts⟩ := h.eq_ok_iff.mp (hr [])
    rw [List.append_nil, List.append_nil] at hparts
    obtain rfl := hv.eq_nil_of_append hw hparts
    rwa [hparts]

theorem congr {Q : α → Octets → Prop} (h : Takes r P) (hsame : ∀ a v, P a v ↔ Q a v) :
    Takes r Q where
  isValue hq := h.isValue ((hsame _ _).mpr hq)
  eq_ok_iff {s a rest} := by
    simp only [← hsame]
    exact h.eq_ok_iff

/-- On a longer input a reader gives the same and leaves the more. -/
theorem append (h : Takes r P) {s rest : Octets} {a : α} (hr : r s = .ok (a, rest))
    (more : Octets) : r (s ++ more) = .ok (a, rest ++ more) := by
  obtain ⟨w, v, hw, ha, rfl⟩ := h.eq_ok_iff.mp hr
  rw [List.append_assoc, List.append_assoc]
  exact h.reads hw ha (rest ++ more)

/-- White space in front is passed over. -/
theorem blank_append (h : Takes r P) {w s rest : Octets} (hw : IsBlank w) {a : α}
    (hr : r s = .ok (a, rest)) : r (w ++ s) = .ok (a, rest) := by
  obtain ⟨w', v, hw', ha, rfl⟩ := h.eq_ok_iff.mp hr
  rw [← List.append_assoc]
  exact h.reads (hw.append hw') ha rest

/-- A reader is known by what it does behind white space. -/
theorem of_dropSpaces (hvalue : ∀ {a v}, P a v → IsValue v)
    (hnil : ∀ {s a rest}, dropSpaces s = [] → r s ≠ .ok (a, rest))
    (hcons : ∀ {s b t a rest}, dropSpaces s = b :: t →
      (r s = .ok (a, rest) ↔ ∃ v, P a v ∧ b :: t = v ++ rest)) : Takes r P where
  isValue := hvalue
  eq_ok_iff {s a rest} := by
    constructor
    · intro h
      obtain ⟨w, hw, hs⟩ := exists_blank_append s
      cases hdrop : dropSpaces s with
      | nil => exact absurd h (hnil hdrop)
      | cons b t =>
        obtain ⟨v, ha, hparts⟩ := (hcons hdrop).mp h
        exact ⟨w, v, hw, ha, by rw [← hparts, ← hdrop, ← hs]⟩
    · rintro ⟨w, v, hw, ha, rfl⟩
      have hdrop := (hvalue ha).dropSpaces_append hw rest
      obtain ⟨b, t, rfl, -⟩ := Grammar.opens (hvalue ha)
      exact (hcons hdrop).mpr ⟨b :: t, ha, rfl⟩

/-- What is made of a value that was read. -/
theorem map (h : Takes r P) (f : α → β) :
    Takes (fun s => (r s).map fun (a, rest) => (f a, rest)) fun b v => ∃ a, P a v ∧ f a = b where
  isValue := fun ⟨_, ha, _⟩ => h.isValue ha
  eq_ok_iff {s b rest} := by
    constructor
    · intro hr
      obtain ⟨⟨a, rest'⟩, hread, hsame⟩ := exists_of_map hr
      obtain ⟨rfl, rfl⟩ := Prod.mk.inj hsame
      obtain ⟨w, v, hw, ha, rfl⟩ := h.eq_ok_iff.mp hread
      exact ⟨w, v, hw, ⟨a, ha, rfl⟩, rfl⟩
    · rintro ⟨w, v, hw, ⟨a, ha, rfl⟩, rfl⟩
      simp only [h.reads hw ha, Except.map]

/-- A whole input is one value between white space. -/
theorem readWhole_eq_ok (h : Takes r P) {s : Octets} {a : α} :
    readWhole r s = .ok a ↔
      ∃ w v w', IsBlank w ∧ P a v ∧ IsBlank w' ∧ s = w ++ (v ++ w') := by
  constructor
  · intro hwhole
    obtain ⟨⟨a', rest⟩, hread, hend⟩ := exists_of_bind_eq_ok hwhole
    dsimp only at hend
    split at hend
    · rename_i hblank
      obtain rfl := Except.ok.inj hend
      obtain ⟨w, v, hw, ha, rfl⟩ := h.eq_ok_iff.mp hread
      obtain ⟨w', hw', hrest⟩ := exists_blank_append rest
      rw [List.isEmpty_iff.mp hblank, List.append_nil] at hrest
      exact ⟨w, v, rest, hw, ha, hrest ▸ hw', rfl⟩
    · cases hend
  · rintro ⟨w, v, w', hw, ha, hw', rfl⟩
    simp only [readWhole, h.reads hw ha, bind, Except.bind, dropSpaces_blank hw', List.isEmpty_nil,
      if_true]

end Takes

/-! ## Words, signs and texts -/

theorem spelling_eq_ok {w s rest : Octets} : spelling w s = .ok rest ↔ s = w ++ rest := by
  induction w generalizing s with
  | nil => simp [spelling]
  | cons b w ih =>
    cases s with
    | nil => exact iff_of_false nofun nofun
    | cons c s =>
      by_cases hb : b = c
      · subst hb
        simp [spelling, ih]
      · simp [spelling, hb, Ne.symm hb]

theorem readColon_eq_ok {s rest : Octets} :
    readColon s = .ok rest ↔ ∃ w, IsBlank w ∧ s = w ++ colon :: rest := by
  have hcolon : dropSpaces s = colon :: rest ↔ ∃ w, IsBlank w ∧ s = w ++ colon :: rest :=
    dropSpaces_eq_cons.trans (and_iff_right rfl)
  rw [← hcolon, readColon]
  cases dropSpaces s with
  | nil => exact iff_of_false nofun nofun
  | cons b t =>
    by_cases hb : b = colon
    · simp [hb]
    · simp [hb]

theorem readColon_append {w : Octets} (hw : IsBlank w) (rest : Octets) :
    readColon (w ++ colon :: rest) = .ok rest :=
  readColon_eq_ok.mpr ⟨w, hw, rfl⟩

/-- The word for the absent value. -/
def nullWord : Octets := 0x6E :: nullRest

/-- The word for a truth value. -/
def boolWord (b : Bool) : Octets := if b then 0x74 :: trueRest else 0x66 :: falseRest

/-- These octets are this word. -/
def SpellsBool (b : Bool) (v : Octets) : Prop := v = boolWord b

/-- These octets are a string that is read as this point in time. -/
def SpellsTime (t : Timestamp) (v : Octets) : Prop :=
  ∃ text, SpellsText text v ∧ Timestamp.read text = .ok t

/-- These octets name one of some values: with its name, or as an object whose only key is
the name. -/
def SpellsChoice (known : List (String × α)) (a : α) (v : Octets) : Prop :=
  ∃ name, known.lookup name = some a ∧ (SpellsText name v ∨ IsObject [(name, nullWord)] v)

/-- These octets are the word for the absent value, or stand for a value that is there. -/
def SpellsOptional (P : α → Octets → Prop) : Option α → Octets → Prop
  | none, v => v = nullWord
  | some a, v => P a v

theorem SpellsText.isValue {text : String} {v : Octets} (h : SpellsText text v) : IsValue v :=
  .string h.isString

theorem isValue_boolWord (b : Bool) : IsValue (boolWord b) := by
  cases b with
  | false => exact .false
  | true => exact .true

theorem takes_text (expected : String) : Takes (readText expected) SpellsText := by
  refine .of_dropSpaces SpellsText.isValue ?_ ?_
  · intro s a rest hdrop
    simp [readText, hdrop]
  · intro s b t a rest hdrop
    simp only [readText, hdrop, beq_iff_eq]
    split
    · rename_i hquote
      rw [stringBody_eq_ok]
      constructor
      · rintro ⟨u, hu, rfl⟩
        exact ⟨quote :: (u ++ [quote]), ⟨u, hu, rfl⟩, by simp [hquote]⟩
      · rintro ⟨v, ⟨u, hu, rfl⟩, hparts⟩
        exact ⟨u, hu, by simpa [hquote] using hparts⟩
    · rename_i hquote
      refine iff_of_false nofun ?_
      rintro ⟨v, ⟨u, hu, rfl⟩, hparts⟩
      exact hquote (List.cons.inj hparts).1

/-- A word that stands for a value. -/
theorem spelling_map_eq_ok {w t rest : Octets} {a b : α} :
    (spelling w t).map (fun rest => (a, rest)) = .ok (b, rest) ↔ a = b ∧ t = w ++ rest := by
  rw [← spelling_eq_ok]
  cases spelling w t with
  | error fault => exact iff_of_false nofun (fun h => nomatch h.2)
  | ok rest' => simp [Except.map]

theorem takes_bool : Takes readBool SpellsBool := by
  refine .of_dropSpaces (fun h => h ▸ isValue_boolWord _) ?_ ?_
  · intro s a rest hdrop
    simp [readBool, hdrop]
  · intro s b t a rest hdrop
    simp only [readBool, hdrop, beq_iff_eq, SpellsBool, exists_eq_left]
    split_ifs with htrue hfalse
    · subst htrue
      rw [spelling_map_eq_ok]
      cases a <;> simp [boolWord]
    · subst hfalse
      rw [spelling_map_eq_ok]
      cases a <;> simp [boolWord]
    · refine iff_of_false nofun ?_
      cases a <;> simp [boolWord, htrue, hfalse]

theorem takes_unit : Takes readUnit fun _ v => v = nullWord := by
  refine .of_dropSpaces (fun h => h ▸ .null) ?_ ?_
  · intro s a rest hdrop
    simp [readUnit, hdrop]
  · intro s b t a rest hdrop
    simp only [readUnit, hdrop, beq_iff_eq, exists_eq_left]
    split_ifs with hnull
    · subst hnull
      rw [spelling_map_eq_ok]
      simp [nullWord]
    · refine iff_of_false nofun ?_
      simp [nullWord, hnull]

theorem takes_timestamp : Takes readTimestamp SpellsTime := by
  have htext := takes_text "an RFC 3339 formatted date and time string"
  refine ⟨fun ⟨_, h, _⟩ => h.isValue, ?_⟩
  intro s t rest
  constructor
  · intro h
    obtain ⟨⟨text, rest'⟩, hread, htime⟩ := exists_of_bind_eq_ok h
    obtain ⟨w, v, hw, hv, rfl⟩ := htext.eq_ok_iff.mp hread
    dsimp only at htime
    split at htime
    · rename_i t' ht'
      obtain ⟨rfl, rfl⟩ := Prod.mk.inj (Except.ok.inj htime)
      exact ⟨w, v, hw, ⟨text, hv, ht'⟩, rfl⟩
    · cases htime
  · rintro ⟨w, v, hw, ⟨text, hv, ht⟩, rfl⟩
    simp only [readTimestamp, htext.reads hw hv, bind, Except.bind, ht]

/-- A value that may be absent, when none that is there starts like the absent one. -/
theorem takes_optional {r : Reader α} {P : α → Octets → Prop} (h : Takes r P)
    (hfirst : ∀ {a b t}, P a (b :: t) → b ≠ 0x6E) : Takes (readOptional r) (SpellsOptional P) := by
  have hvalue : ∀ {a : Option α} {v : Octets}, SpellsOptional P a v → IsValue v := by
    intro a v ha
    cases a with
    | none => exact ha ▸ .null
    | some a => exact h.isValue ha
  refine .of_dropSpaces hvalue ?_ ?_
  · intro s a rest hdrop hread
    simp only [readOptional, hdrop] at hread
    obtain ⟨⟨a', rest'⟩, hread', -⟩ := exists_of_map hread
    obtain ⟨w, v, -, ha, hparts⟩ := h.eq_ok_iff.mp hread'
    obtain ⟨b, t, rfl, -⟩ := Grammar.opens (h.isValue ha)
    simp at hparts
  · intro s b t a rest hdrop
    obtain ⟨hb, -⟩ := dropSpaces_eq_cons.mp hdrop
    simp only [readOptional, hdrop, beq_iff_eq]
    split
    · rename_i hnull
      subst hnull
      rw [spelling_map_eq_ok]
      cases a with
      | none => simp [SpellsOptional, nullWord]
      | some a =>
        refine iff_of_false nofun ?_
        rintro ⟨v, ha, hparts⟩
        obtain ⟨c, u, rfl, -⟩ := Grammar.opens (h.isValue ha)
        exact hfirst ha (List.cons.inj hparts).1.symm
    · rename_i hnull
      constructor
      · intro hread
        obtain ⟨⟨a', rest'⟩, hread', hsame⟩ := exists_of_map hread
        obtain ⟨rfl, rfl⟩ := Prod.mk.inj hsame
        obtain ⟨w, v, hw, ha, hparts⟩ := h.eq_ok_iff.mp hread'
        cases w with
        | nil => exact ⟨v, ha, hparts⟩
        | cons c w =>
          obtain ⟨rfl, -⟩ := List.cons.inj hparts
          exact absurd (hw b List.mem_cons_self) (by rw [hb]; exact Bool.false_ne_true)
      · rintro ⟨v, ha, hparts⟩
        cases a with
        | none =>
          obtain rfl : v = nullWord := ha
          exact absurd (List.cons.inj hparts).1 hnull
        | some a =>
          rw [hparts]
          have hread := h.reads isBlank_nil ha rest
          rw [List.nil_append] at hread
          simp only [hread, Except.map]

/-! ## Choices -/

theorem pick_eq_ok {known : List (String × α)} {name : String} {a : α} :
    pick known name = .ok a ↔ known.lookup name = some a := by
  unfold pick
  cases known.lookup name <;> simp

/-- An object with one key. -/
theorem isObject_one {key : String} {v s : Octets} :
    IsObject [(key, v)] s ↔ ∃ w t w' w'' w₃, IsBlank w ∧ Spells (Octets.ofString key) t ∧
      IsBlank w' ∧ IsBlank w'' ∧ IsValue v ∧ IsBlank w₃ ∧
      s = openObject :: (w ++ quote :: (t ++ quote :: (w' ++ colon ::
        (w'' ++ (v ++ (w₃ ++ [closeObject])))))) := by
  constructor
  · intro h
    cases h with
    | members hw hms =>
      cases hms with
      | last hk hw' hw'' hv hw₃ =>
        obtain ⟨t, ht, rfl⟩ := hk
        exact ⟨_, t, _, _, _, hw, ht, hw', hw'', hv, hw₃, by simp⟩
      | cons _ _ _ _ _ _ more => cases more
  · rintro ⟨w, t, w', w'', w₃, hw, ht, hw', hw'', hv, hw₃, rfl⟩
    have hobject := IsObject.members hw (.last ⟨t, ht, rfl⟩ hw' hw'' hv hw₃)
    simpa using hobject

theorem IsObject.isValue {ms : List (String × Octets)} {s : Octets} (h : IsObject ms s) :
    IsValue s := by
  have hmembers : ∀ {ms s}, Members ms s → Grammar .members s := by
    intro ms s h
    induction h with
    | last hk hw hw' hv hw'' => exact .lastMember hk.isString hw hw' hv hw''
    | cons hk hw hw' hv hw'' hw₃ _ ih => exact .member hk.isString hw hw' hv hw'' hw₃ ih
  cases h with
  | empty hw => exact .emptyObject hw
  | members hw h => exact .object hw (hmembers h)

section Choice

variable {known : List (String × α)} {s t rest : Octets} {a : α}

/-- Behind a quote, a choice is a name. -/
theorem readChoice_quote (hdrop : dropSpaces s = quote :: t) :
    readChoice known s = .ok (a, rest) ↔
      ∃ name v, known.lookup name = some a ∧ SpellsText name v ∧ quote :: t = v ++ rest := by
  simp only [readChoice, hdrop, beq_self_eq_true, if_true]
  constructor
  · intro h
    obtain ⟨⟨name, rest'⟩, hname, h⟩ := exists_of_bind_eq_ok h
    obtain ⟨a', hpick, h⟩ := exists_of_bind_eq_ok h
    obtain ⟨rfl, rfl⟩ := Prod.mk.inj (Except.ok.inj h)
    obtain ⟨u, hu, rfl⟩ := stringBody_eq_ok.mp hname
    exact ⟨name, quote :: (u ++ [quote]), pick_eq_ok.mp hpick, ⟨u, hu, rfl⟩, by simp⟩
  · rintro ⟨name, v, hlookup, ⟨u, hu, rfl⟩, hparts⟩
    have hname : stringBody t = .ok (name, rest) :=
      stringBody_eq_ok.mpr ⟨u, hu, by simpa using hparts⟩
    simp only [hname, bind, Except.bind, pick_eq_ok.mpr hlookup]

/-- Behind the bracket of an object that is read as a choice, the object has one key, which is
the name, and the absent value. -/
theorem exists_of_readChoice_object (hdrop : dropSpaces s = openObject :: t)
    (h : readChoice known s = .ok (a, rest)) :
    ∃ name v, known.lookup name = some a ∧ IsObject [(name, nullWord)] v ∧
      openObject :: t = v ++ rest := by
  simp only [readChoice, hdrop, show (openObject == quote) = false from rfl, Bool.false_eq_true,
    if_false, beq_self_eq_true, if_true] at h
  cases hkey : dropSpaces t with
  | nil => simp [hkey] at h
  | cons c u =>
    simp only [hkey, beq_iff_eq, bne_iff_ne, ne_eq] at h
    split_ifs at h with hclose hother
    obtain ⟨⟨name, s₁⟩, hname, h⟩ := exists_of_bind_eq_ok h
    obtain ⟨a', hpick, h⟩ := exists_of_bind_eq_ok h
    obtain ⟨s₂, hcolon, h⟩ := exists_of_bind_eq_ok h
    obtain ⟨⟨_, s₃⟩, hunit, h⟩ := exists_of_bind_eq_ok h
    cases hend : dropSpaces s₃ with
    | nil => simp [hend] at h
    | cons d u' =>
      simp only [hend] at h
      split_ifs at h with hclosing
      obtain ⟨rfl, rfl⟩ := Prod.mk.inj (Except.ok.inj h)
      obtain ⟨-, w, hw, rfl⟩ := dropSpaces_eq_cons.mp hkey
      obtain ⟨k, hk, rfl⟩ := stringBody_eq_ok.mp hname
      obtain ⟨w', hw', rfl⟩ := readColon_eq_ok.mp hcolon
      obtain ⟨w'', v, hw'', rfl, rfl⟩ := takes_unit.eq_ok_iff.mp hunit
      obtain ⟨-, w₃, hw₃, rfl⟩ := dropSpaces_eq_cons.mp hend
      refine ⟨name, _, pick_eq_ok.mp hpick, isObject_one.mpr
        ⟨w, k, w', w'', w₃, hw, hk, hw', hw'', .null, hw₃, rfl⟩, ?_⟩
      rw [hother, hclosing]
      simp

theorem readChoice_object (hdrop : dropSpaces s = openObject :: t) {name : String}
    {v : Octets} (hlookup : known.lookup name = some a) (hobject : IsObject [(name, nullWord)] v)
    (hparts : openObject :: t = v ++ rest) : readChoice known s = .ok (a, rest) := by
  obtain ⟨w, k, w', w'', w₃, hw, hk, hw', hw'', -, hw₃, rfl⟩ := isObject_one.mp hobject
  simp only [List.cons_append, List.cons.injEq, true_and, List.append_assoc,
    List.nil_append] at hparts
  have hkey : dropSpaces t = quote :: (k ++ quote :: (w' ++ colon ::
      (w'' ++ (nullWord ++ (w₃ ++ closeObject :: rest))))) :=
    dropSpaces_eq_cons.mpr ⟨rfl, w, hw, hparts⟩
  have hunit := takes_unit.reads hw'' rfl (a := ()) (w₃ ++ closeObject :: rest)
  have hend := dropSpaces_append_cons hw₃ (b := closeObject) rfl rest
  simp only [readChoice, hdrop, hkey, stringBody_spelled hk, pick_eq_ok.mpr hlookup,
    readColon_append hw', hunit, hend, bind, Except.bind, bne_self_eq_false, beq_self_eq_true,
    show (openObject == quote) = false from rfl, show (quote == closeObject) = false from rfl,
    Bool.false_eq_true, if_false, if_true]

end Choice

theorem takes_choice (known : List (String × α)) :
    Takes (readChoice known) (SpellsChoice known) := by
  refine .of_dropSpaces ?_ ?_ ?_
  · rintro a v ⟨name, -, h | h⟩
    · exact h.isValue
    · exact h.isValue
  · intro s a rest hdrop
    simp [readChoice, hdrop]
  · intro s b t a rest hdrop
    constructor
    · intro h
      by_cases hquote : b = quote
      · subst hquote
        obtain ⟨name, v, hlookup, htext, hparts⟩ := (readChoice_quote hdrop).mp h
        exact ⟨v, ⟨name, hlookup, .inl htext⟩, hparts⟩
      by_cases hopen : b = openObject
      · subst hopen
        obtain ⟨name, v, hlookup, hobject, hparts⟩ := exists_of_readChoice_object hdrop h
        exact ⟨v, ⟨name, hlookup, .inr hobject⟩, hparts⟩
      simp [readChoice, hdrop, hquote, hopen] at h
    · rintro ⟨v, ⟨name, hlookup, htext | hobject⟩, hparts⟩
      · obtain ⟨u, hu, rfl⟩ := htext
        obtain rfl := (List.cons.inj hparts).1
        exact (readChoice_quote hdrop).mpr ⟨name, _, hlookup, ⟨u, hu, rfl⟩, hparts⟩
      · obtain rfl : b = openObject := by
          obtain ⟨w, u, w', w'', w₃, -, -, -, -, -, -, rfl⟩ := isObject_one.mp hobject
          exact (List.cons.inj hparts).1
        exact readChoice_object hdrop hlookup hobject hparts

end CatalogReplica.Json
