/-
# CatalogReplica.Proofs.Json.Fields -- what an object says about one field

A shape keeps what it reads under a key in a place of its own. Going through the members of
an object, that place depends on the members with that key alone (`Gathered.kept`): without
one it stays empty, with one it holds what its value stands for, and with two the object is
not read. Conversely, when every known key comes at most once, with a value that is read, the
members are gathered (`Admits.exists_gathered`), in whatever order they stand.
-/
import CatalogReplica.Proofs.Json.Objects

namespace CatalogReplica.Json

variable {σ α β γ : Type}

/-! ## Values under a key -/

theorem valuesOf_nil (key : String) : valuesOf key [] = [] := rfl

theorem valuesOf_cons_self (key : String) (v : Octets) (ms : List (String × Octets)) :
    valuesOf key ((key, v) :: ms) = v :: valuesOf key ms := by
  simp [valuesOf]

theorem valuesOf_cons_of_ne {key key' : String} (h : key' ≠ key) (v : Octets)
    (ms : List (String × Octets)) : valuesOf key ((key', v) :: ms) = valuesOf key ms := by
  simp [valuesOf, h]

/-- Leaving members out by their keys leaves out all values under a key, or none. -/
theorem valuesOf_filter (f : String → Bool) (key : String) (ms : List (String × Octets)) :
    valuesOf key (ms.filter fun m => f m.1) = if f key then valuesOf key ms else [] := by
  have hfilter : (ms.filter fun m => f m.1).filter (·.1 == key) =
      if f key then ms.filter (·.1 == key) else [] := by
    rw [List.filter_filter]
    cases hf : f key with
    | true =>
      refine List.filter_congr fun m _ => ?_
      by_cases hm : m.1 = key
      · rw [hm, hf, Bool.and_true]
      · rw [beq_eq_false_iff_ne.mpr hm, Bool.false_and]
    | false =>
      refine List.filter_eq_nil_iff.mpr fun m _ => ?_
      by_cases hm : m.1 = key
      · simp [hm, hf]
      · simp [hm]
  rw [valuesOf, hfilter]
  split <;> rfl

/-- What is kept of the values under a key: nothing of none, what it stands for of one. -/
def Kept (P : β → Octets → Prop) : List Octets → Option β → Prop
  | [], none => True
  | [v], some b => P b v
  | _, _ => False

/-- There is one value, and it stands for `b`. -/
def Once (P : β → Octets → Prop) (values : List Octets) (b : β) : Prop :=
  ∃ v, values = [v] ∧ P b v

/-- There is one value, and it stands for `b`, or there is none and `b` is the default. -/
def Holds (P : β → Octets → Prop) (default : β) (values : List Octets) (b : β) : Prop :=
  (values = [] ∧ b = default) ∨ Once P values b

theorem Kept.once {P : β → Octets → Prop} {values : List Octets} {b : β}
    (h : Kept P values (some b)) : Once P values b := by
  match values, h with
  | [v], h => exact ⟨v, rfl, h⟩

theorem Kept.holds {P : β → Octets → Prop} {values : List Octets} {o : Option β}
    (h : Kept P values o) (default : β) : Holds P default values (o.getD default) := by
  match values, o, h with
  | [], none, _ => exact .inl ⟨rfl, rfl⟩
  | [v], some b, h => exact .inr ⟨v, rfl, h⟩

theorem Holds.exists_once {P : β → Octets → Prop} {values : List Octets} {b default : β}
    (h : Holds P default values b) : values = [] ∨ ∃ b, Once P values b :=
  h.imp And.left fun honce => ⟨b, honce⟩

theorem Once.of_kept {P : β → Octets → Prop} {values : List Octets} {b : β}
    (h : Once P values b) {o : Option β} (hkept : Kept P values o)
    (hunique : ∀ {b b' v}, P b v → P b' v → b = b') : o = some b := by
  obtain ⟨v, rfl, hb⟩ := h
  cases o with
  | none => exact hkept.elim
  | some b' => exact congrArg some (hunique hkept hb)

theorem Holds.of_kept {P : β → Octets → Prop} {values : List Octets} {b default : β}
    (h : Holds P default values b) {o : Option β} (hkept : Kept P values o)
    (hunique : ∀ {b b' v}, P b v → P b' v → b = b') : o.getD default = b := by
  rcases h with ⟨rfl, rfl⟩ | h
  · cases o with
    | none => rfl
    | some b' => exact hkept.elim
  · rw [h.of_kept hkept hunique, Option.getD_some]

namespace Shape

variable {shape : Shape σ α}

/-! ## Fields -/

/-- `get` is what a shape keeps under a key: the member with this key reads a value into it, and
no other member changes it. -/
structure Field (shape : Shape σ α) (key : String) (get : σ → Option β)
    (P : β → Octets → Prop) : Prop where
  unique : ∀ {b b' v}, P b v → P b' v → b = b'
  isKnown : ∃ member, shape.members.find? (·.key == key) = some member
  isPresent : ∀ {member}, shape.members.find? (·.key == key) = some member →
    ∀ p, member.isPresent p = (get p).isSome
  read : ∀ {member}, shape.members.find? (·.key == key) = some member →
    ∀ {p p' v}, Stands (member.read p) p' v → ∃ b, get p' = some b ∧ P b v
  exists_read : ∀ {member}, shape.members.find? (·.key == key) = some member →
    ∀ {b v}, P b v → ∀ p, ∃ p', Stands (member.read p) p' v
  other : ∀ {key' member}, key' ≠ key → shape.members.find? (·.key == key') = some member →
    ∀ {p p' v}, Stands (member.read p) p' v → get p' = get p

section Gathered

variable {key : String} {get : σ → Option β} {P : β → Octets → Prop}

/-- The member under its key sets a field, which was not set. -/
theorem Puts.own (hfield : shape.Field key get P) {v : Octets} {p p' : σ}
    (h : shape.Puts key v p p') : get p = none ∧ ∃ b, get p' = some b ∧ P b v := by
  obtain ⟨member, hfind⟩ := hfield.isKnown
  simp only [Puts, hfind] at h
  rw [hfield.isPresent hfind p, Option.isSome_eq_false_iff, Option.isNone_iff_eq_none] at h
  exact ⟨h.1, hfield.read hfind h.2⟩

/-- A member under another key leaves a field as it is. -/
theorem Puts.other (hfield : shape.Field key get P) {key' : String} (hkey : key' ≠ key)
    {v : Octets} {p p' : σ} (h : shape.Puts key' v p p') : get p' = get p := by
  unfold Puts at h
  split at h
  · rw [h]
  · rename_i hfind
    exact hfield.other hkey hfind h.2

/-- Once a field is set, its key does not come again and it stays. -/
theorem Gathered.of_some (hfield : shape.Field key get P) {ms : List (String × Octets)} {p q : σ}
    (h : shape.Gathered p ms q) {b : β} (hb : get p = some b) :
    valuesOf key ms = [] ∧ get q = some b := by
  induction h with
  | nil p => exact ⟨rfl, hb⟩
  | @cons p p' q key' v ms puts more ih =>
    by_cases hkey : key' = key
    · subst hkey
      obtain ⟨hnone, -⟩ := puts.own hfield
      cases hnone.symm.trans hb
    · rw [valuesOf_cons_of_ne hkey]
      exact ih ((puts.other hfield hkey).trans hb)

/-- What a field holds in the end is kept of the values under its key. -/
theorem Gathered.kept (hfield : shape.Field key get P) {ms : List (String × Octets)} {p q : σ}
    (h : shape.Gathered p ms q) (hnone : get p = none) : Kept P (valuesOf key ms) (get q) := by
  induction h with
  | nil p =>
    rw [valuesOf_nil, hnone]
    trivial
  | @cons p p' q key' v ms puts more ih =>
    by_cases hkey : key' = key
    · subst hkey
      obtain ⟨-, b, hb, hv⟩ := puts.own hfield
      obtain ⟨hrest, hq⟩ := more.of_some hfield hb
      rw [valuesOf_cons_self, hrest, hq]
      exact hv
    · rw [valuesOf_cons_of_ne hkey]
      exact ih ((puts.other hfield hkey).trans hnone)

/-- What a field holds in the end, or its default, is what the values under its key say. -/
theorem Gathered.getD_eq (hfield : shape.Field key get P) (hstart : get shape.start = none)
    {ms : List (String × Octets)} {q : σ} (h : shape.Gathered shape.start ms q) {default b : β}
    (hb : Holds P default (valuesOf key ms) b) : (get q).getD default = b :=
  hb.of_kept (h.kept hfield hstart) hfield.unique

end Gathered

/-- A known member whose key comes at most once, with a value that is read. -/
def IsReadable (member : Member σ) (values : List Octets) : Prop :=
  values = [] ∨ ∃ v, values = [v] ∧ ∀ p, ∃ p', Stands (member.read p) p' v

/-- What is kept so far admits these members: each known key comes at most once, with a value
that is read, and not at all when its place is taken. -/
structure Admits (shape : Shape σ α) (p : σ) (ms : List (String × Octets)) : Prop where
  readable : ∀ {key member}, shape.members.find? (·.key == key) = some member →
    IsReadable member (valuesOf key ms)
  fresh : ∀ {key member}, shape.members.find? (·.key == key) = some member →
    member.isPresent p = true → valuesOf key ms = []

/-- Every known key belongs to a field. -/
def IsKept (shape : Shape σ α) : Prop :=
  ∀ {key member}, shape.members.find? (·.key == key) = some member →
    ∃ (β : Type) (get : σ → Option β) (P : β → Octets → Prop), shape.Field key get P

section Admits

variable {key : String} {v : Octets} {ms : List (String × Octets)} {p : σ}

/-- A member with an unknown key is passed over. -/
theorem Admits.pass (h : shape.Admits p ((key, v) :: ms))
    (hunknown : shape.members.find? (·.key == key) = none) :
    shape.Puts key v p p ∧ shape.Admits p ms := by
  have hne : ∀ {key' member},
      shape.members.find? (·.key == key') = some member → key ≠ key' := by
    rintro key' member hknown rfl
    cases hunknown.symm.trans hknown
  refine ⟨by simp [Puts, hunknown], fun hknown => ?_, fun hknown hpresent => ?_⟩
  · have hvalues := h.readable hknown
    rwa [valuesOf_cons_of_ne (hne hknown)] at hvalues
  · have hvalues := h.fresh hknown hpresent
    rwa [valuesOf_cons_of_ne (hne hknown)] at hvalues

/-- A member with a known key is put in its place, and the key does not come again. -/
theorem Admits.put (hkept : shape.IsKept) (h : shape.Admits p ((key, v) :: ms))
    {member : Member σ} (hfind : shape.members.find? (·.key == key) = some member) :
    ∃ p', shape.Puts key v p p' ∧ shape.Admits p' ms := by
  have hown := h.readable hfind
  rw [valuesOf_cons_self] at hown
  obtain hnil | ⟨v', hvalues, hread⟩ := hown
  · cases hnil
  obtain ⟨rfl, hrest⟩ := List.cons.inj hvalues
  obtain ⟨p', hp'⟩ := hread p
  have hfree : member.isPresent p = false := by
    by_contra hpresent
    have hnil := h.fresh hfind (by simpa using hpresent)
    rw [valuesOf_cons_self] at hnil
    cases hnil
  refine ⟨p', by simp [Puts, hfind, hfree, hp'], fun {key' _} hknown => ?_,
    fun {key' _} hknown hpresent => ?_⟩
  · by_cases hkey : key = key'
    · subst hkey
      exact .inl hrest
    · have hothers := h.readable hknown
      rwa [valuesOf_cons_of_ne hkey] at hothers
  · by_cases hkey : key = key'
    · subst hkey
      exact hrest
    · -- the place of another key is as it was
      obtain ⟨β, get, P, hfield⟩ := hkept hknown
      rw [hfield.isPresent hknown, hfield.other hkey hfind hp',
        ← hfield.isPresent hknown p] at hpresent
      have hothers := h.fresh hknown hpresent
      rwa [valuesOf_cons_of_ne hkey] at hothers

/-- Members that are admitted are gathered. -/
theorem Admits.exists_gathered (hkept : shape.IsKept) (h : shape.Admits p ms) :
    ∃ q, shape.Gathered p ms q := by
  induction ms generalizing p with
  | nil => exact ⟨p, .nil p⟩
  | cons m ms ih =>
    cases hfind : shape.members.find? (·.key == m.1) with
    | none =>
      obtain ⟨hputs, hrest⟩ := h.pass hfind
      obtain ⟨q, hq⟩ := ih hrest
      exact ⟨q, .cons hputs hq⟩
    | some member =>
      obtain ⟨p', hputs, hrest⟩ := h.put hkept hfind
      obtain ⟨q, hq⟩ := ih hrest
      exact ⟨q, .cons hputs hq⟩

end Admits

/-- Members are gathered from the start when each known key belongs to a field and has at most
one value, which stands for something. -/
theorem exists_gathered_start {ms : List (String × Octets)}
    (h : ∀ key member, shape.members.find? (·.key == key) = some member →
      ∃ (β : Type) (get : σ → Option β) (P : β → Octets → Prop), shape.Field key get P ∧
        get shape.start = none ∧ (valuesOf key ms = [] ∨ ∃ b, Once P (valuesOf key ms) b)) :
    ∃ q, shape.Gathered shape.start ms q := by
  have hkept : shape.IsKept := fun {key member} hfind => by
    obtain ⟨β, get, P, hfield, -⟩ := h key member hfind
    exact ⟨β, get, P, hfield⟩
  refine Admits.exists_gathered hkept ⟨fun {key member} hfind => ?_,
    fun {key member} hfind hpresent => ?_⟩
  · obtain ⟨β, get, P, hfield, -, hnil | ⟨b, v, hvalues, hb⟩⟩ := h key member hfind
    · exact .inl hnil
    · exact .inr ⟨v, hvalues, hfield.exists_read hfind hb⟩
  · obtain ⟨β, get, P, hfield, hnone, -⟩ := h key member hfind
    rw [hfield.isPresent hfind, hnone] at hpresent
    cases hpresent

/-- A member that is kept in one place reads a value into that place. -/
theorem takes_of {key : String} {isRequired : Bool} {get : σ → Option β} {set : σ → β → σ}
    {value : Reader β} {P : β → Octets → Prop} (h : Takes value P) (p : σ) :
    Takes ((Member.of key isRequired get set value).read p)
      fun p' v => ∃ b, P b v ∧ set p b = p' :=
  h.map (set p)

/-- Reading a member leaves a place as it is. -/
def Spares (m : Member σ) (get : σ → Option γ) : Prop :=
  ∀ p p' v, Stands (m.read p) p' v → get p' = get p

/-- A member that is kept in one place spares the others. -/
theorem spares_of {key : String} {isRequired : Bool} {get : σ → Option β} {set : σ → β → σ}
    {value : Reader β} {get' : σ → Option γ} (h : ∀ p b, get' (set p b) = get' p) :
    Spares (.of key isRequired get set value) get' := by
  intro p p' v hv
  obtain ⟨⟨b, rest⟩, -, hsame⟩ := exists_of_map (hv.2 [])
  obtain rfl := (Prod.mk.inj hsame).1
  exact h p b

/-- A member that is found by its key. -/
theorem mem_of_find {members : List (Member σ)} {key : String} {member : Member σ}
    (h : members.find? (·.key == key) = some member) : member ∈ members ∧ member.key = key :=
  ⟨List.mem_of_find?_eq_some h, by simpa using List.find?_some h⟩

/-- A field that is kept in one place of what is gathered, which the members with other keys
leave as it is. -/
theorem field_of {key : String} {isRequired : Bool} {get : σ → Option β} {set : σ → β → σ}
    {value : Reader β} {P : β → Octets → Prop} (htakes : Takes value P)
    (hfind : shape.members.find? (·.key == key) = some (.of key isRequired get set value))
    (hget : ∀ p b, get (set p b) = some b)
    (hspares : ∀ m ∈ shape.members, m.key = key ∨ Spares m get) : shape.Field key get P where
  unique := htakes.unique
  isKnown := ⟨_, hfind⟩
  isPresent hmember p := by
    obtain rfl := Option.some.inj (hfind.symm.trans hmember)
    rfl
  read hmember p p' v hv := by
    obtain rfl := Option.some.inj (hfind.symm.trans hmember)
    obtain ⟨b, hb, rfl⟩ := (takes_of htakes p).stands_iff.mp hv
    exact ⟨b, hget p b, hb⟩
  exists_read hmember b v hb p := by
    obtain rfl := Option.some.inj (hfind.symm.trans hmember)
    exact ⟨set p b, (takes_of htakes p).stands_iff.mpr ⟨b, hb, rfl⟩⟩
  other hne hfind' p p' v hv := by
    obtain ⟨hm, rfl⟩ := mem_of_find hfind'
    exact (hspares _ hm).resolve_left hne p p' v hv

end Shape
end CatalogReplica.Json
