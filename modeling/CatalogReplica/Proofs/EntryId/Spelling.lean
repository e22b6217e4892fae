/-
# CatalogReplica.Proofs.EntryId.Spelling -- which texts name a position

A text names an id if it is a numeral, or two numerals with a hyphen between them, and
nothing else does: no sign, no blank, no digit of another script, no second hyphen, and no
number that needs more than 64 bits. Zeros may stand in front of a numeral, so an id has many
spellings. It is written without them, as the service writes it; so an acknowledgement names
an entry by the very text that came with it, unless that text has such zeros or no hyphen.
-/
import CatalogReplica.EntryId.Lemmas
import CatalogReplica.Proofs.Queue.Holding
import CatalogReplica.Proofs.Wire.Entries
import Mathlib.Data.List.Basic
import Mathlib.Data.List.Induction
import Mathlib.Data.Nat.Digits.Defs
import Mathlib.Tactic.IntervalCases

namespace CatalogReplica

/-! ## Numerals -/

/-- One or more of the ten ASCII digits, with the value that they have by their places. -/
structure Numeral (ds : List Char) (n : Nat) : Prop where
  nonempty : ds ≠ []
  digits : ∀ c ∈ ds, '0' ≤ c ∧ c ≤ '9'
  value : Nat.ofDigits 10 (ds.reverse.map fun c => c.toNat - '0'.toNat) = n

/-- A numeral starts with a zero only if it is that zero. -/
def IsPlain (ds : List Char) : Prop := ds.head? = some '0' → ds = ['0']

theorem isDigit_iff {c : Char} : isDigit c = true ↔ '0' ≤ c ∧ c ≤ '9' := by
  rw [isDigit, Bool.and_eq_true, decide_eq_true_iff, decide_eq_true_iff]

/-- Digits are counted up from the left as they are by their places. -/
theorem digitsValue_eq_ofDigits (ds : List Char) :
    digitsValue ds = Nat.ofDigits 10 (ds.reverse.map fun c => c.toNat - '0'.toNat) := by
  induction ds using List.reverseRecOn with
  | nil => rfl
  | append_singleton ds c ih =>
    rw [digitsValue_concat, ih, List.reverse_append, List.reverse_singleton,
      List.singleton_append, List.map_cons, Nat.ofDigits_cons]
    show _ * 10 + digitValue c = digitValue c + 10 * _
    omega

/-- A number below the bound is read off its numerals, and off nothing else. -/
theorem natBelow?_eq_some_iff {bound n : Nat} {ds : List Char} :
    natBelow? bound ds = some n ↔ Numeral ds n ∧ n < bound := by
  have hdigits : ds.all isDigit = true ↔ ∀ c ∈ ds, '0' ≤ c ∧ c ≤ '9' := by
    simp only [List.all_eq_true, isDigit_iff]
  constructor
  · intro h
    unfold natBelow? at h
    split at h
    case isTrue => cases h
    case isFalse hform =>
      dsimp only at h
      split at h
      case isFalse => cases h
      case isTrue hlt =>
        cases h
        simp only [Bool.or_eq_true, Bool.not_eq_true', not_or, Bool.not_eq_true,
          Bool.not_eq_false, List.isEmpty_eq_false_iff] at hform
        exact ⟨⟨hform.1, hdigits.mp hform.2, (digitsValue_eq_ofDigits ds).symm⟩, hlt⟩
  · rintro ⟨⟨hne, hall, rfl⟩, hlt⟩
    rw [← digitsValue_eq_ofDigits] at hlt ⊢
    simp [natBelow?, hne, hdigits.mpr hall, hlt]

/-- No digit is a hyphen. -/
theorem Numeral.no_hyphen {ds : List Char} {n : Nat} (h : Numeral ds n) : '-' ∉ ds :=
  fun hmem => absurd (h.digits _ hmem).1 (by decide)

/-! ## The one numeral without superfluous zeros -/

/-- A digit is the one that is written for its value. -/
theorem digitChar_digitValue {c : Char} (h : '0' ≤ c ∧ c ≤ '9') :
    digitValue c < 10 ∧ Nat.digitChar (digitValue c) = c := by
  rw [Char.le_def, Char.le_def, UInt32.le_iff_toNat_le, UInt32.le_iff_toNat_le] at h
  obtain ⟨hlow, hhigh⟩ : 48 ≤ c.toNat ∧ c.toNat ≤ 57 := h
  have hback : Char.ofNat c.toNat = c := Char.ofNat_toNat c
  generalize c.toNat = n at hlow hhigh hback
  subst hback
  interval_cases n <;> decide

theorem IsPlain.of_append {ds es : List Char} (h : IsPlain (ds ++ es)) (hds : ds ≠ [])
    (hes : es ≠ []) : ds.head? ≠ some '0' := by
  intro hzero
  have hwhole : ds ++ es = ['0'] := h (by rw [List.head?_append_of_ne_nil _ hds, hzero])
  have hlength := congrArg List.length hwhole
  have hds' := List.length_pos_iff.mpr hds
  have hes' := List.length_pos_iff.mpr hes
  rw [List.length_append, List.length_singleton] at hlength
  omega

/-- Digits that do not start with a zero have a value. -/
theorem digitsValue_pos {ds : List Char} (hdigits : ∀ c ∈ ds, '0' ≤ c ∧ c ≤ '9') (hne : ds ≠ [])
    (hhead : ds.head? ≠ some '0') : 0 < digitsValue ds := by
  induction ds using List.reverseRecOn with
  | nil => exact absurd rfl hne
  | append_singleton ds c ih =>
    rw [digitsValue_concat]
    by_cases hnil : ds = []
    · subst hnil
      have hback := (digitChar_digitValue (hdigits c (by simp))).2
      rcases Nat.eq_zero_or_pos (digitValue c) with hzero | hpos
      · rw [hzero] at hback
        exact absurd (congrArg some hback.symm) hhead
      · omega
    · have hmore := ih (fun d hd => hdigits d (List.mem_append_left _ hd)) hnil
        (by rwa [List.head?_append_of_ne_nil _ hnil] at hhead)
      omega

/-- A plain numeral is the one that is written for its number. -/
theorem decimal_digitsValue {ds : List Char} (hdigits : ∀ c ∈ ds, '0' ≤ c ∧ c ≤ '9')
    (hne : ds ≠ []) (hplain : IsPlain ds) : decimal (digitsValue ds) = ds := by
  induction ds using List.reverseRecOn with
  | nil => exact absurd rfl hne
  | append_singleton ds c ih =>
    obtain ⟨hlt, hback⟩ := digitChar_digitValue (hdigits c (by simp))
    rw [digitsValue_concat]
    by_cases hnil : ds = []
    · subst hnil
      have hone : digitsValue [] * 10 + digitValue c = digitValue c := Nat.zero_add _
      rw [hone, decimal_of_lt hlt, hback, List.nil_append]
    · have hinit : ∀ d ∈ ds, '0' ≤ d ∧ d ≤ '9' := fun d hd =>
        hdigits d (List.mem_append_left _ hd)
      have hhead : ds.head? ≠ some '0' := hplain.of_append hnil (List.cons_ne_nil c [])
      have hpos : 0 < digitsValue ds := digitsValue_pos hinit hnil hhead
      have hdiv : (digitsValue ds * 10 + digitValue c) / 10 = digitsValue ds := by omega
      have hmod : (digitsValue ds * 10 + digitValue c) % 10 = digitValue c := by omega
      rw [decimal_of_le (by omega), hdiv, hmod, hback,
        ih hinit hnil fun hzero => absurd hzero hhead]

/-- The numeral that is written for a number has no superfluous zero. -/
theorem isPlain_decimal (n : Nat) : IsPlain (decimal n) := by
  intro hzero
  induction n using Nat.strongRecOn with
  | _ n ih =>
    rcases Nat.lt_or_ge n 10 with hlt | hge
    · rw [decimal_of_lt hlt] at hzero ⊢
      rw [List.head?_cons, Option.some.injEq] at hzero
      rw [hzero]
    · -- the first digit of a longer numeral is that of a shorter one, which is not zero
      rw [decimal_of_le hge, List.head?_append_of_ne_nil _ (decimal_ne_nil _)] at hzero
      have hshort := ih (n / 10) (by omega) hzero
      have hvalue : n / 10 = 0 := by
        rw [← digitsValue_decimal (n / 10), hshort]
        rfl
      omega

theorem Numeral.decimal_eq_iff {ds : List Char} {n : Nat} (h : Numeral ds n) :
    decimal n = ds ↔ IsPlain ds := by
  constructor
  · rintro rfl
    exact isPlain_decimal n
  · intro hplain
    rw [← h.value, ← digitsValue_eq_ofDigits]
    exact decimal_digitsValue h.digits h.nonempty hplain

/-! ## Ids -/

namespace EntryId

/-- The characters that name a time and a counter: the numeral of the time alone if the
counter is zero, or both numerals with a hyphen between them. -/
inductive Spelled : List Char → Nat → Nat → Prop where
  | bare {ds : List Char} {millis : Nat} (first : Numeral ds millis) : Spelled ds millis 0
  | whole {ds es : List Char} {millis counter : Nat} (first : Numeral ds millis)
      (second : Numeral es counter) : Spelled (ds ++ '-' :: es) millis counter

/-- Characters with a hyphen, in front of which and behind which no zero is superfluous. -/
def IsCanonical (t : List Char) : Prop :=
  ∃ ds es, t = ds ++ '-' :: es ∧ IsPlain ds ∧ IsPlain es

theorem splitHyphen_of_none {ds : List Char} (h : '-' ∉ ds) : splitHyphen ds = (ds, none) := by
  induction ds with
  | nil => rfl
  | cons d ds ih =>
    obtain ⟨hd, hds⟩ := List.ne_and_not_mem_of_not_mem_cons h
    simp [splitHyphen, Ne.symm hd, ih hds]

/-- The first hyphen is found. -/
theorem splitHyphen_of_not_mem {ds : List Char} (h : '-' ∉ ds) (es : List Char) :
    splitHyphen (ds ++ '-' :: es) = (ds, some es) := by
  apply splitHyphen_append
  intro c hc
  rw [beq_eq_false_iff_ne]
  rintro rfl
  exact h hc

/-- Splitting loses nothing. -/
theorem eq_of_splitHyphen {t first : List Char} {second : Option (List Char)}
    (h : splitHyphen t = (first, second)) :
    t = first ++ (second.map ('-' :: ·)).getD [] := by
  induction t generalizing first with
  | nil =>
    cases h
    rfl
  | cons c cs ih =>
    unfold splitHyphen at h
    split at h
    case isTrue hc =>
      cases h
      rw [beq_iff_eq.mp hc]
      rfl
    case isFalse =>
      cases hsplit : splitHyphen cs with
      | mk before behind =>
        rw [hsplit] at h
        cases h
        rw [List.cons_append, ← ih hsplit]

theorem of?_eq_some_iff {millis counter : Nat} {i : EntryId} :
    of? millis counter = some i ↔ i.millis = millis ∧ i.counter = counter := by
  unfold of?
  constructor
  · intro h
    split at h
    case isTrue =>
      cases h
      exact ⟨rfl, rfl⟩
    case isFalse => cases h
  · rintro ⟨rfl, rfl⟩
    rw [dif_pos ⟨i.millis_lt, i.counter_lt⟩]

/-- An id is read off its spellings, and off nothing else. -/
theorem readChars?_eq_some_iff {t : List Char} {i : EntryId} :
    readChars? t = some i ↔ Spelled t i.millis i.counter := by
  constructor
  · intro h
    unfold readChars? at h
    cases hsplit : splitHyphen t with
    | mk first second =>
      rw [hsplit] at h
      obtain ⟨millis, hmillis, h⟩ := Option.bind_eq_some_iff.mp h
      have hfirst := (natBelow?_eq_some_iff.mp hmillis).1
      rw [eq_of_splitHyphen hsplit]
      cases second with
      | none =>
        obtain ⟨rfl, hzero⟩ := of?_eq_some_iff.mp h
        rw [Option.map_none, Option.getD_none, List.append_nil, hzero]
        exact .bare hfirst
      | some es =>
        obtain ⟨counter, hcounter, h⟩ := Option.bind_eq_some_iff.mp h
        obtain ⟨rfl, rfl⟩ := of?_eq_some_iff.mp h
        exact .whole hfirst (natBelow?_eq_some_iff.mp hcounter).1
  · intro h
    have hid : of? i.millis i.counter = some i := of?_eq_some_iff.mpr ⟨rfl, rfl⟩
    generalize hcounter : i.counter = counter at h hid
    generalize hmillis : i.millis = millis at h hid
    have hmillis_lt : millis < word := hmillis ▸ i.millis_lt
    have hcounter_lt : counter < word := hcounter ▸ i.counter_lt
    unfold readChars?
    cases h with
    | bare first =>
      rw [splitHyphen_of_none first.no_hyphen]
      simp [natBelow?_eq_some_iff.mpr ⟨first, hmillis_lt⟩, hid]
    | whole first second =>
      rw [splitHyphen_of_not_mem first.no_hyphen]
      simp [natBelow?_eq_some_iff.mpr ⟨first, hmillis_lt⟩,
        natBelow?_eq_some_iff.mpr ⟨second, hcounter_lt⟩, hid]

theorem read?_eq_some_iff {t : String} {i : EntryId} :
    read? t = some i ↔ Spelled t.toList i.millis i.counter := readChars?_eq_some_iff

/-- In a text with one hyphen only there is one place to take it apart. -/
theorem append_hyphen_inj {ds ds' es es' : List Char} (hds : '-' ∉ ds) (hes : '-' ∉ es)
    (h : ds' ++ '-' :: es' = ds ++ '-' :: es) : ds' = ds ∧ es' = es := by
  have hcount := congrArg (List.count '-') h
  simp only [List.count_append, List.count_cons_self, List.count_eq_zero.mpr hds,
    List.count_eq_zero.mpr hes] at hcount
  have hds' : '-' ∉ ds' := List.count_eq_zero.mp (by omega)
  have hsplit := congrArg splitHyphen h
  rw [splitHyphen_of_not_mem hds', splitHyphen_of_not_mem hds] at hsplit
  cases hsplit
  exact ⟨rfl, rfl⟩

/-- An id that was read is written as it came if nothing in it is superfluous. -/
theorem chars_eq_iff {t : List Char} {i : EntryId} (h : Spelled t i.millis i.counter) :
    i.chars = t ↔ IsCanonical t := by
  constructor
  · rintro rfl
    exact ⟨_, _, rfl, isPlain_decimal _, isPlain_decimal _⟩
  · rintro ⟨ds, es, hparts, hds, hes⟩
    unfold chars
    generalize i.counter = counter at h
    generalize i.millis = millis at h
    cases h with
    | bare first =>
      rw [hparts] at first
      exact absurd (List.mem_append_right ds List.mem_cons_self) first.no_hyphen
    | whole first second =>
      obtain ⟨rfl, rfl⟩ := append_hyphen_inj first.no_hyphen second.no_hyphen hparts.symm
      rw [first.decimal_eq_iff.mpr hds, second.decimal_eq_iff.mpr hes]

theorem text_eq_iff {t : String} {i : EntryId} (h : read? t = some i) :
    i.text = t ↔ IsCanonical t.toList := by
  rw [← chars_eq_iff (read?_eq_some_iff.mp h), text]
  constructor
  · intro htext
    rw [← htext, String.toList_ofList]
  · intro hchars
    rw [hchars, String.ofList_toList]

theorem isCanonical_text (i : EntryId) : IsCanonical i.text.toList :=
  (text_eq_iff (read?_text i)).mp rfl

theorem exists_read?_iff (t : String) : (∃ i, read? t = some i) ↔
    ∃ millis counter, Spelled t.toList millis counter ∧ millis < 2 ^ 64 ∧ counter < 2 ^ 64 := by
  constructor
  · rintro ⟨i, hi⟩
    exact ⟨i.millis, i.counter, read?_eq_some_iff.mp hi, i.millis_lt, i.counter_lt⟩
  · rintro ⟨millis, counter, hspelled, hmillis, hcounter⟩
    exact ⟨⟨millis, counter, hmillis, hcounter⟩, read?_eq_some_iff.mpr hspelled⟩

theorem read?_of_decode {e : Entry} {i : EntryId} {change : Change}
    (h : e.decode = .ok (i, change)) : read? e.id = some i :=
  (Entry.decode_eq_ok h).1

/-- A text names an id exactly if it spells two numbers of 64 bits, and it names the id with
these numbers. Every id is read back from its own text; and an id that was read is written
as it came exactly if the text has a hyphen and no superfluous zero. So the acknowledgement
of an entry carries the id that the entry came with whenever the service writes ids in this
form, as it does for every id that there is. -/
theorem reads_spellings :
    (∀ t : String, (∃ i, read? t = some i) ↔
      ∃ millis counter, Spelled t.toList millis counter ∧ millis < 2 ^ 64 ∧ counter < 2 ^ 64) ∧
    (∀ (t : String) (i : EntryId), read? t = some i ↔ Spelled t.toList i.millis i.counter) ∧
    (∀ i : EntryId, read? i.text = some i ∧ IsCanonical i.text.toList) ∧
    (∀ (t : String) (i : EntryId), read? t = some i → (i.text = t ↔ IsCanonical t.toList)) ∧
    ∀ (q : Queue) (e : Entry) (i : EntryId) (change : Change) (command : Command),
      e.decode = .ok (i, change) → q.acknowledge i = .ok command →
      (command.words = ["XACK", q.consumer.streamKey, q.consumer.nodeId, e.id] ↔
        IsCanonical e.id.toList) := by
  refine ⟨exists_read?_iff, fun _ _ => read?_eq_some_iff, ?_, fun _ _ => text_eq_iff, ?_⟩
  · exact fun i => ⟨read?_text i, isCanonical_text i⟩
  · intro q e i change command hdecode hcommand
    rw [Queue.acknowledge_eq_ok hcommand, ← text_eq_iff (read?_of_decode hdecode)]
    simp [Consumer.ackCommand, Command.words]

/-- An id as the service writes it. -/
def assigned : EntryId := ⟨1526919030474, 55, by decide, by decide⟩

/-- An entry with some id, which holds a change. -/
def entryUnder (id : String) (change : Change) : Entry :=
  ⟨id, Change.simpleFields change.json, false⟩

theorem decode_entryUnder {id : String} {i : EntryId} (h : read? id = some i) (change : Change) :
    (entryUnder id change).decode = .ok (i, change.settled) := by
  have hpayload : Entry.payload (entryUnder id change).fields =
      .ok (Octets.ofString change.json) :=
    Entry.payload_of_carries (Change.simpleFields_carries _)
  have hid : read? (entryUnder id change).id = some i := h
  simp [Entry.decode, hid, hpayload, bind, Except.bind, Change.ofOctets_json]

/-- Under its own text an entry is acknowledged by that text. Under a text with a zero in
front the same id is read, but the acknowledgement does not name that text. -/
theorem zero_in_front_left_out :
    read? "1526919030474-55" = some assigned ∧ assigned.text = "1526919030474-55" ∧
    read? "01526919030474-55" = some assigned ∧ assigned.text ≠ "01526919030474-55" ∧
    ∃ command, Change.onlineQueue.acknowledge assigned = .ok command ∧
      command.words = ["XACK", "shop:catalogs", "node", "1526919030474-55"] ∧
      command.words ≠ ["XACK", "shop:catalogs", "node", "01526919030474-55"] := by
  have hplain : read? "1526919030474-55" = some assigned := by decide +kernel
  have hpadded : read? "01526919030474-55" = some assigned := by decide +kernel
  obtain ⟨-, -, hback, hsame, hack⟩ := reads_spellings
  have htext : assigned.text = "1526919030474-55" := by decide +kernel
  have hzero : ¬ IsCanonical "01526919030474-55".toList := by
    rw [← hsame _ assigned hpadded, htext]
    decide
  refine ⟨hplain, htext, hpadded, mt (hsame _ assigned hpadded).mp hzero, _, rfl, ?_, ?_⟩
  · exact (hack Change.onlineQueue _ assigned _ _ (decode_entryUnder hplain Change.awkward)
      rfl).mpr (htext ▸ (hback assigned).2)
  · exact mt (hack Change.onlineQueue _ assigned _ _ (decode_entryUnder hpadded Change.awkward)
      rfl).mp hzero

end EntryId
end CatalogReplica
