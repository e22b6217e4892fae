/-
# CatalogReplica.Proofs.Json.Objects -- objects and lists that spell a shape

An object is a list of members, and its octets determine them (`IsObject.unique`). A shape is
read from it by going through the members: a known key must not have been read before and its
value is read into what has been gathered, an unknown one changes nothing. `Gathered` is that
course without octets; `takes_shape` says that reading an object is nothing else, and that
reading a list is the same by position.

What a shape keeps under one key depends on the members with that key alone
(`Gathered.kept`): there is at most one, and the value of that one is what is kept.
-/
import CatalogReplica.Json.Shape
import CatalogReplica.Proofs.Json.Readers

namespace CatalogReplica.Json

/-! ## The members of an object -/

theorem Members.exists_cons {ms : List (String × Octets)} {s : Octets} (h : Members ms s) :
    ∃ t, s = quote :: t := by
  cases h with
  | last hk | cons hk =>
    obtain ⟨t, -, rfl⟩ := hk
    exact ⟨_, rfl⟩

theorem Members.length_le {ms : List (String × Octets)} {s : Octets} (h : Members ms s) :
    ms.length ≤ s.length := by
  induction h with
  | last =>
    simp only [List.length_append, List.length_cons]
    omega
  | cons _ _ _ _ _ _ _ ih =>
    simp only [List.length_append, List.length_cons]
    omega

/-- A key is told apart from what follows it. -/
theorem SpellsText.append_inj {text text' : String} {k k' s s' : Octets} (h : SpellsText text k)
    (h' : SpellsText text' k') (hsame : k ++ s = k' ++ s') : text = text' ∧ s = s' := by
  obtain ⟨t, ht, rfl⟩ := h
  obtain ⟨t', ht', rfl⟩ := h'
  have hread := stringBody_spelled ht s
  have hparts : t ++ quote :: s = t' ++ quote :: s' := by simpa using hsame
  rw [hparts, stringBody_spelled ht'] at hread
  obtain ⟨rfl, rfl⟩ := Prod.mk.inj (Except.ok.inj hread)
  exact ⟨rfl, rfl⟩

/-- A sign is told apart from white space in front of it. -/
theorem blank_append_inj {w w' s s' : Octets} {b c : UInt8} (hw : IsBlank w) (hw' : IsBlank w')
    (hb : isSpace b = false) (hc : isSpace c = false) (h : w ++ b :: s = w' ++ c :: s') :
    b = c ∧ s = s' := by
  have hdrop := dropSpaces_append_cons hw hb s
  rw [h, dropSpaces_append_cons hw' hc] at hdrop
  obtain ⟨rfl, rfl⟩ := List.cons.inj hdrop
  exact ⟨rfl, rfl⟩

/-- A value is told apart from what follows it, when that does not go on with a number. -/
theorem IsValue.append_inj {w w' v v' s s' : Octets} (hw : IsBlank w) (hw' : IsBlank w')
    (hv : IsValue v) (hv' : IsValue v') (hs : EndsNumber s) (hs' : EndsNumber s')
    (h : w ++ (v ++ s) = w' ++ (v' ++ s')) : v = v' ∧ s = s' := by
  have hskip := skipValue_value hw hv hs
  rw [h, skipValue_value hw' hv' hs'] at hskip
  obtain rfl := Except.ok.inj hskip
  have hdrop := hv.dropSpaces_append hw s'
  rw [h, hv'.dropSpaces_append hw'] at hdrop
  exact ⟨(List.append_cancel_right hdrop).symm, rfl⟩

/-- A sign between values is no part of a number. -/
theorem endsNumber_comma {w : Octets} (hw : IsBlank w) (s : Octets) :
    EndsNumber (w ++ comma :: s) :=
  endsNumber_append hw s (by decide)

theorem endsNumber_closeObject {w : Octets} (hw : IsBlank w) (s : Octets) :
    EndsNumber (w ++ closeObject :: s) :=
  endsNumber_append hw s (by decide)

/-- A member is told apart from what follows it. -/
theorem member_append_inj {key key' : String} {k k' w w' v v' w₁ w₁' s s' : Octets}
    (hk : SpellsText key k) (hk' : SpellsText key' k') (hw : IsBlank w) (hw' : IsBlank w')
    (hw₁ : IsBlank w₁) (hw₁' : IsBlank w₁') (hv : IsValue v) (hv' : IsValue v')
    (hs : EndsNumber s) (hs' : EndsNumber s')
    (h : k ++ (w ++ colon :: (w₁ ++ (v ++ s))) = k' ++ (w' ++ colon :: (w₁' ++ (v' ++ s')))) :
    key = key' ∧ v = v' ∧ s = s' := by
  obtain ⟨hkey, hcolon⟩ := hk.append_inj hk' h
  obtain ⟨-, hvalue⟩ := blank_append_inj hw hw' rfl rfl hcolon
  exact ⟨hkey, IsValue.append_inj hw₁ hw₁' hv hv' hs hs' hvalue⟩

/-- Octets have these members in one way only, and tell where they end. -/
theorem Members.append_inj {ms ms' : List (String × Octets)} {s s' rest rest' : Octets}
    (h : Members ms s) (h' : Members ms' s') (hsame : s ++ rest = s' ++ rest') :
    ms = ms' ∧ rest = rest' := by
  induction h generalizing ms' s' with
  | last hk hw hw' hv hw'' =>
    cases h' with
    | last hk₂ hw₂ hw₂' hv₂ hw₂'' =>
      simp only [List.append_assoc, List.cons_append, List.nil_append] at hsame
      obtain ⟨rfl, rfl, hend⟩ := member_append_inj hk hk₂ hw hw₂ hw' hw₂' hv hv₂
        (endsNumber_closeObject hw'' _) (endsNumber_closeObject hw₂'' _) hsame
      exact ⟨rfl, (blank_append_inj hw'' hw₂'' rfl rfl hend).2⟩
    | cons hk₂ hw₂ hw₂' hv₂ hw₂'' hw₃ more =>
      simp only [List.append_assoc, List.cons_append, List.nil_append] at hsame
      obtain ⟨-, -, hend⟩ := member_append_inj hk hk₂ hw hw₂ hw' hw₂' hv hv₂
        (endsNumber_closeObject hw'' _) (endsNumber_comma hw₂'' _) hsame
      exact absurd (blank_append_inj hw'' hw₂'' rfl rfl hend).1 (by decide)
  | cons hk hw hw' hv hw'' hw₃ more ih =>
    cases h' with
    | last hk₂ hw₂ hw₂' hv₂ hw₂'' =>
      simp only [List.append_assoc, List.cons_append, List.nil_append] at hsame
      obtain ⟨-, -, hend⟩ := member_append_inj hk hk₂ hw hw₂ hw' hw₂' hv hv₂
        (endsNumber_comma hw'' _) (endsNumber_closeObject hw₂'' _) hsame
      exact absurd (blank_append_inj hw'' hw₂'' rfl rfl hend).1 (by decide)
    | cons hk₂ hw₂ hw₂' hv₂ hw₂'' hw₃' more₂ =>
      simp only [List.append_assoc, List.cons_append] at hsame
      obtain ⟨rfl, rfl, hend⟩ := member_append_inj hk hk₂ hw hw₂ hw' hw₂' hv hv₂
        (endsNumber_comma hw'' _) (endsNumber_comma hw₂'' _) hsame
      obtain ⟨-, hnext⟩ := blank_append_inj hw'' hw₂'' rfl rfl hend
      obtain ⟨t, rfl⟩ := more.exists_cons
      obtain ⟨t', rfl⟩ := more₂.exists_cons
      obtain ⟨-, htail⟩ := blank_append_inj hw₃ hw₃' rfl rfl hnext
      obtain ⟨rfl, rfl⟩ := ih more₂ (congrArg (quote :: ·) htail)
      exact ⟨rfl, rfl⟩

/-- The members of an object are determined by its octets. -/
theorem IsObject.append_inj {ms ms' : List (String × Octets)} {s s' rest rest' : Octets}
    (h : IsObject ms s) (h' : IsObject ms' s') (hsame : s ++ rest = s' ++ rest') :
    ms = ms' ∧ rest = rest' := by
  cases h with
  | empty hw =>
    cases h' with
    | empty hw₂ =>
      simp only [List.append_assoc, List.cons_append, List.nil_append, List.cons.injEq,
        true_and] at hsame
      exact ⟨rfl, (blank_append_inj hw hw₂ rfl rfl hsame).2⟩
    | members hw₂ hms =>
      obtain ⟨t, rfl⟩ := hms.exists_cons
      simp only [List.append_assoc, List.cons_append, List.nil_append, List.cons.injEq,
        true_and] at hsame
      exact absurd (blank_append_inj hw hw₂ rfl rfl hsame).1 (by decide)
  | members hw hms =>
    obtain ⟨t, rfl⟩ := hms.exists_cons
    cases h' with
    | empty hw₂ =>
      simp only [List.append_assoc, List.cons_append, List.nil_append, List.cons.injEq,
        true_and] at hsame
      exact absurd (blank_append_inj hw hw₂ rfl rfl hsame).1 (by decide)
    | members hw₂ hms₂ =>
      obtain ⟨t', rfl⟩ := hms₂.exists_cons
      simp only [List.append_assoc, List.cons_append, List.cons.injEq, true_and] at hsame
      obtain ⟨-, htail⟩ := blank_append_inj hw hw₂ rfl rfl hsame
      exact hms.append_inj hms₂ (congrArg (quote :: ·) htail)

theorem IsObject.unique {ms ms' : List (String × Octets)} {v : Octets} (h : IsObject ms v)
    (h' : IsObject ms' v) : ms = ms' :=
  (h.append_inj h' (rfl : v ++ [] = v ++ [])).1

/-! ## One member -/

/-- What a reader gives for a value, wherever the value stands. -/
def Stands {α : Type} (r : Reader α) (a : α) (v : Octets) : Prop :=
  IsValue v ∧ ∀ rest, r (v ++ rest) = .ok (a, rest)

theorem Takes.stands_iff {α : Type} {r : Reader α} {P : α → Octets → Prop} (h : Takes r P) {a : α}
    {v : Octets} : Stands r a v ↔ P a v :=
  ⟨fun ⟨hv, hr⟩ => (h.spells_iff hv).mpr hr, fun ha => ⟨h.isValue ha, fun rest =>
    h.reads isBlank_nil ha rest⟩⟩

theorem Takes.stands {α : Type} {r : Reader α} {P : α → Octets → Prop} (h : Takes r P) :
    Takes r (Stands r) :=
  h.congr fun _ _ => h.stands_iff.symm

namespace Shape

variable {σ α β : Type} (shape : Shape σ α)

/-- Every member takes white space and a value, whatever has been gathered. -/
def IsRegular : Prop := ∀ m ∈ shape.members, ∀ p, Takes (m.read p) (Stands (m.read p))

/-- One member leads from `p` gathered to `p'`: an unknown key changes nothing, a known one has
not been read and its value is read. -/
def Puts (key : String) (v : Octets) (p p' : σ) : Prop :=
  match shape.members.find? (·.key == key) with
  | none => p' = p
  | some member => member.isPresent p = false ∧ Stands (member.read p) p' v

/-- The members lead from `p` gathered to `q`. -/
inductive Gathered : σ → List (String × Octets) → σ → Prop
  | nil (p : σ) : Gathered p [] p
  | cons {p p' q : σ} {key : String} {v : Octets} {ms : List (String × Octets)}
      (puts : shape.Puts key v p p') (more : Gathered p' ms q) : Gathered p ((key, v) :: ms) q

variable {shape}

/-- What is read behind a key is a colon and one value. -/
theorem exists_of_readMember (hshape : shape.IsRegular) {key : String} {p p' : σ} {s rest : Octets}
    (h : shape.readMember key p s = .ok (p', rest)) :
    ∃ w w' v, IsBlank w ∧ IsBlank w' ∧ IsValue v ∧ shape.Puts key v p p' ∧
      s = w ++ colon :: (w' ++ (v ++ rest)) := by
  unfold readMember at h
  unfold Puts
  cases hfind : shape.members.find? (·.key == key) with
  | none =>
    simp only [hfind] at h ⊢
    obtain ⟨s₁, hcolon, hrest⟩ := exists_of_bind_eq_ok h
    obtain ⟨s₂, hskip, hok⟩ := exists_of_bind_eq_ok hrest
    obtain ⟨rfl, rfl⟩ := Prod.mk.inj (Except.ok.inj hok)
    obtain ⟨w, hw, rfl⟩ := readColon_eq_ok.mp hcolon
    obtain ⟨w', v, rfl, hw', hv⟩ := exists_value_of_skip hskip
    exact ⟨w, w', v, hw, hw', hv, rfl, rfl⟩
  | some member =>
    simp only [hfind] at h ⊢
    split_ifs at h with hpresent
    obtain ⟨s₁, hcolon, hread⟩ := exists_of_bind_eq_ok h
    obtain ⟨w, hw, rfl⟩ := readColon_eq_ok.mp hcolon
    have hmember := hshape member (List.mem_of_find?_eq_some hfind) p
    obtain ⟨w', v, hw', hv, rfl⟩ := hmember.eq_ok_iff.mp hread
    exact ⟨w, w', v, hw, hw', hv.1, ⟨Bool.eq_false_iff.mpr hpresent, hv⟩, rfl⟩

/-- A colon and a value are read behind a key. -/
theorem readMember_of_puts (hshape : shape.IsRegular) {key : String} {p p' : σ}
    {w w' v rest : Octets} (hw : IsBlank w) (hw' : IsBlank w') (hv : IsValue v)
    (h : shape.Puts key v p p') (hends : EndsNumber rest) :
    shape.readMember key p (w ++ colon :: (w' ++ (v ++ rest))) = .ok (p', rest) := by
  unfold Puts at h
  unfold readMember
  cases hfind : shape.members.find? (·.key == key) with
  | none =>
    simp only [hfind] at h
    simp only [readColon_append hw, skipValue_value hw' hv hends, bind, Except.bind, h]
  | some member =>
    simp only [hfind] at h
    have hmember := hshape member (List.mem_of_find?_eq_some hfind) p
    simp only [readColon_append hw, h.1, Bool.false_eq_true, if_false, bind, Except.bind]
    exact hmember.reads hw' h.2 rest

/-! ## All members -/

/-- What is read from behind the opening quote of a key are the members of an object. -/
theorem exists_of_readMembers (hshape : shape.IsRegular) {fuel : Nat} {p q : σ} {s rest : Octets}
    (h : shape.readMembers fuel p s = .ok (q, rest)) :
    ∃ ms t, Members ms t ∧ shape.Gathered p ms q ∧ quote :: s = t ++ rest := by
  induction fuel generalizing p s with
  | zero => cases h
  | succ fuel ih =>
    obtain ⟨⟨key, s₁⟩, hkey, hbehind⟩ := exists_of_bind_eq_ok h
    obtain ⟨⟨p', s₂⟩, hmember, hrest⟩ := exists_of_bind_eq_ok hbehind
    obtain ⟨k, hk, rfl⟩ := stringBody_eq_ok.mp hkey
    obtain ⟨w, w', v, hw, hw', hv, hputs, rfl⟩ := exists_of_readMember hshape hmember
    have hspells : SpellsText key (quote :: (k ++ [quote])) := ⟨k, hk, rfl⟩
    cases hdrop : dropSpaces s₂ with
    | nil => simp [hdrop] at hrest
    | cons b s₃ =>
      obtain ⟨-, w'', hw'', rfl⟩ := dropSpaces_eq_cons.mp hdrop
      simp only [hdrop, beq_iff_eq] at hrest
      -- A bracket ends the object, and behind a comma the next key is due.
      split_ifs at hrest with hclose hcomma
      · obtain ⟨rfl, rfl⟩ := Prod.mk.inj (Except.ok.inj hrest)
        exact ⟨_, _, .last hspells hw hw' hv hw'', .cons hputs (.nil _), by simp [hclose]⟩
      · cases hnext : dropSpaces s₃ with
        | nil => simp [hnext] at hrest
        | cons c s₄ =>
          obtain ⟨-, w₃, hw₃, rfl⟩ := dropSpaces_eq_cons.mp hnext
          simp only [hnext] at hrest
          split_ifs at hrest with hquote
          obtain ⟨ms, t, hms, hgathered, hparts⟩ := ih hrest
          refine ⟨_, _, .cons hspells hw hw' hv hw'' hw₃ hms, .cons hputs hgathered, ?_⟩
          simp [hcomma, hquote, hparts]

/-- The members of an object are read; each takes one unit of fuel. -/
theorem readMembers_of_gathered (hshape : shape.IsRegular) {ms : List (String × Octets)}
    {t : Octets} (h : Members ms t) :
    ∀ {fuel : Nat} {p q : σ} {s : Octets}, shape.Gathered p ms q → ms.length ≤ fuel →
      t = quote :: s → ∀ rest, shape.readMembers fuel p (s ++ rest) = .ok (q, rest) := by
  induction h with
  | @last key k w w' v w'' hk hw hw' hv hw'' =>
    intro fuel p q s hgathered hfuel hs rest
    obtain ⟨fuel, rfl⟩ : ∃ n, fuel = n + 1 := ⟨fuel - 1, by simp at hfuel; omega⟩
    obtain ⟨k, hk, rfl⟩ := hk
    simp only [List.cons_append, List.append_assoc, List.nil_append, List.cons.injEq,
      true_and] at hs
    subst hs
    cases hgathered with
    | cons hputs more =>
      cases more
      have hmember := readMember_of_puts hshape hw hw' hv hputs (endsNumber_closeObject hw'' rest)
      simp only [List.append_assoc, List.cons_append, List.nil_append, readMembers,
        stringBody_spelled hk, hmember, bind, Except.bind,
        dropSpaces_append_cons hw'' (show isSpace closeObject = false from rfl), beq_self_eq_true,
        if_true]
  | @cons key k w w' v w'' w₃ u ms hk hw hw' hv hw'' hw₃ more ih =>
    intro fuel p q s hgathered hfuel hs rest
    obtain ⟨fuel, rfl⟩ : ∃ n, fuel = n + 1 := ⟨fuel - 1, by simp at hfuel; omega⟩
    obtain ⟨k, hk, rfl⟩ := hk
    obtain ⟨u', rfl⟩ := more.exists_cons
    simp only [List.cons_append, List.append_assoc, List.nil_append, List.cons.injEq,
      true_and] at hs
    subst hs
    cases hgathered with
    | cons hputs hmore =>
      have hmember := readMember_of_puts hshape hw hw' hv hputs
        (endsNumber_comma hw'' (w₃ ++ quote :: (u' ++ rest)))
      simp only [List.append_assoc, List.cons_append, readMembers, stringBody_spelled hk, hmember,
        bind, Except.bind, dropSpaces_append_cons hw'' (show isSpace comma = false from rfl),
        dropSpaces_append_cons hw₃ (show isSpace quote = false from rfl), beq_self_eq_true,
        if_true, show (comma == closeObject) = false from rfl, Bool.false_eq_true, if_false]
      exact ih hmore (by simp only [List.length_cons] at hfuel; omega) rfl rest

/-- An object of the shape, and what it stands for. -/
def SpellsObject (shape : Shape σ α) (a : α) (v : Octets) : Prop :=
  ∃ ms q, IsObject ms v ∧ shape.Gathered shape.start ms q ∧ shape.missing q = [] ∧
    shape.finish q = a

/-- What is read behind the bracket of an object is the rest of an object that spells it. -/
theorem exists_of_readObject (hshape : shape.IsRegular) {s rest : Octets} {a : α}
    (h : shape.readObject s = .ok (a, rest)) :
    ∃ v, shape.SpellsObject a v ∧ openObject :: s = v ++ rest := by
  unfold readObject at h
  cases hdrop : dropSpaces s with
  | nil =>
    rw [hdrop] at h
    cases h
  | cons b t =>
    obtain ⟨-, w, hw, rfl⟩ := dropSpaces_eq_cons.mp hdrop
    simp only [hdrop, beq_iff_eq] at h
    split_ifs at h with hclose hquote
    · cases hcomplete : shape.missing shape.start with
      | nil =>
        simp only [bind, Except.bind, hcomplete, Except.ok.injEq, Prod.mk.injEq] at h
        obtain ⟨rfl, rfl⟩ := h
        exact ⟨_, ⟨[], _, .empty hw, .nil _, hcomplete, rfl⟩, by simp [hclose]⟩
      | cons key keys => simp [bind, Except.bind, hcomplete] at h
    · obtain ⟨⟨q, s'⟩, hread, hend⟩ := exists_of_bind_eq_ok h
      obtain ⟨ms, u, hms, hgathered, hparts⟩ := exists_of_readMembers hshape hread
      cases hcomplete : shape.missing q with
      | nil =>
        simp only [hcomplete, Except.ok.injEq, Prod.mk.injEq] at hend
        obtain ⟨rfl, rfl⟩ := hend
        exact ⟨_, ⟨ms, q, .members hw hms, hgathered, hcomplete, rfl⟩, by simp [hquote, hparts]⟩
      | cons key keys => simp [hcomplete] at hend
    · cases h

theorem readObject_of_spells (hshape : shape.IsRegular) {s rest v : Octets} {a : α}
    (h : shape.SpellsObject a v) (hparts : openObject :: s = v ++ rest) :
    shape.readObject s = .ok (a, rest) := by
  obtain ⟨ms, q, hobject, hgathered, hcomplete, rfl⟩ := h
  cases hobject with
  | empty hw =>
    cases hgathered
    simp only [List.cons_append, List.append_assoc, List.nil_append, List.cons.injEq,
      true_and] at hparts
    simp only [readObject, hparts, dropSpaces_append_cons hw
      (show isSpace closeObject = false from rfl), beq_self_eq_true, if_true, bind, Except.bind,
      hcomplete]
  | members hw hms =>
    obtain ⟨u, rfl⟩ := hms.exists_cons
    simp only [List.cons_append, List.append_assoc, List.cons.injEq, true_and] at hparts
    have henough : ms.length ≤ (u ++ rest).length + 1 := by
      have := hms.length_le
      simp only [List.length_cons] at this
      rw [List.length_append]
      omega
    have hread := readMembers_of_gathered hshape hms hgathered henough rfl rest
    simp only [readObject, hparts,
      dropSpaces_append_cons hw (show isSpace quote = false from rfl),
      show (quote == closeObject) = false from rfl, Bool.false_eq_true, if_false,
      beq_self_eq_true, if_true, hread, bind, Except.bind, hcomplete]

/-- What is read behind the opening bracket of an object. -/
theorem readObject_eq_ok (hshape : shape.IsRegular) {s rest : Octets} {a : α} :
    shape.readObject s = .ok (a, rest) ↔
      ∃ v, shape.SpellsObject a v ∧ openObject :: s = v ++ rest := by
  constructor
  · exact exists_of_readObject hshape
  · rintro ⟨v, hv, hparts⟩
    exact readObject_of_spells hshape hv hparts

end Shape

/-! ## Lists -/

/-- The values of a list, from where one may follow to the closing bracket. -/
inductive ListRest : Bool → List Octets → Octets → Prop
  | close {isFirst : Bool} {w : Octets} (hw : IsBlank w) : ListRest isFirst [] (w ++ [closeList])
  | first {w v s : Octets} {vs : List Octets} (hw : IsBlank w) (hv : IsValue v)
      (more : ListRest false vs s) : ListRest true (v :: vs) (w ++ (v ++ s))
  | next {w w' v s : Octets} {vs : List Octets} (hw : IsBlank w) (hw' : IsBlank w')
      (hv : IsValue v) (more : ListRest false vs s) :
      ListRest false (v :: vs) (w ++ comma :: (w' ++ (v ++ s)))

/-- A list with these values. -/
def IsList (vs : List Octets) (s : Octets) : Prop := ∃ t, ListRest true vs t ∧ s = openList :: t

theorem ListRest.items {vs : List Octets} {isFirst : Bool} {s : Octets} (h : ListRest isFirst vs s)
    (hfirst : isFirst = false) {v : Octets} (hv : IsValue v) : Grammar .items (v ++ s) := by
  induction h generalizing v with
  | close hw => exact .lastItem hv hw
  | first => cases hfirst
  | next hw hw' hv' _ ih => exact .item hv hw hw' (ih rfl hv')

theorem IsList.isValue {vs : List Octets} {s : Octets} (h : IsList vs s) : IsValue s := by
  obtain ⟨t, h, rfl⟩ := h
  cases h with
  | close hw => exact .emptyList hw
  | first hw hv more => exact .list hw (more.items rfl hv)

theorem listStep_close {isFirst : Bool} {s rest : Octets} :
    listStep isFirst s = .ok (.close rest) ↔ ∃ w, IsBlank w ∧ s = w ++ closeList :: rest := by
  have hclose : dropSpaces s = closeList :: rest ↔ ∃ w, IsBlank w ∧ s = w ++ closeList :: rest :=
    dropSpaces_eq_cons.trans (and_iff_right rfl)
  rw [← hclose, listStep]
  cases dropSpaces s with
  | nil => exact iff_of_false nofun nofun
  | cons b t =>
    by_cases hb : b = closeList
    · simp [hb]
    · simp only [hb, beq_iff_eq, if_false, List.cons.injEq, false_and, iff_false]
      split_ifs
      · exact nofun
      · cases dropSpaces t with
        | nil => exact nofun
        | cons c u =>
          dsimp only
          split_ifs <;> exact nofun
      · exact nofun

theorem exists_of_listStep_first {s s' : Octets} (h : listStep true s = .ok (.element s')) :
    ∃ w, IsBlank w ∧ s = w ++ s' := by
  obtain ⟨w, hw, hs⟩ := exists_blank_append s
  refine ⟨w, hw, ?_⟩
  rw [listStep] at h
  cases hdrop : dropSpaces s with
  | nil => simp [hdrop] at h
  | cons b t =>
    simp only [hdrop, if_true] at h
    split_ifs at h
    · cases h
    · obtain rfl := ListStep.element.inj (Except.ok.inj h)
      rwa [hdrop] at hs

theorem exists_of_listStep_next {s s' : Octets} (h : listStep false s = .ok (.element s')) :
    ∃ w w', IsBlank w ∧ IsBlank w' ∧ s = w ++ comma :: (w' ++ s') := by
  rw [listStep] at h
  cases hdrop : dropSpaces s with
  | nil => simp [hdrop] at h
  | cons b t =>
    obtain ⟨-, w, hw, rfl⟩ := dropSpaces_eq_cons.mp hdrop
    simp only [hdrop, beq_iff_eq, Bool.false_eq_true, if_false] at h
    split_ifs at h with hclose hcomma
    · cases h
    · cases hnext : dropSpaces t with
      | nil => simp [hnext] at h
      | cons c u =>
        simp only [hnext] at h
        split_ifs at h
        obtain rfl := ListStep.element.inj (Except.ok.inj h)
        obtain ⟨-, w', hw', rfl⟩ := dropSpaces_eq_cons.mp hnext
        exact ⟨w, w', hw, hw', by rw [hcomma]⟩

/-- In front of a value a list goes on. -/
theorem listStep_first {w v : Octets} (hw : IsBlank w) (hv : IsValue v) (s : Octets) :
    listStep true (w ++ (v ++ s)) = .ok (.element (v ++ s)) := by
  rw [listStep, hv.dropSpaces_append hw]
  obtain ⟨b, t, rfl, -, hclose⟩ := Grammar.opens hv
  simp [hclose]

theorem listStep_next {w w' v : Octets} (hw : IsBlank w) (hw' : IsBlank w') (hv : IsValue v)
    (s : Octets) :
    listStep false (w ++ comma :: (w' ++ (v ++ s))) = .ok (.element (v ++ s)) := by
  rw [listStep, dropSpaces_append_cons hw rfl]
  simp only [show (comma == closeList) = false from rfl, Bool.false_eq_true, if_false,
    beq_self_eq_true, if_true, hv.dropSpaces_append hw']
  obtain ⟨b, t, rfl, -, hclose⟩ := Grammar.opens hv
  simp [hclose]

namespace Shape

variable {σ α β : Type} {shape : Shape σ α}

theorem listEnd_eq_ok {s rest : Octets} :
    listEnd s = .ok rest ↔ ∃ w, IsBlank w ∧ s = w ++ closeList :: rest := by
  have hclose : dropSpaces s = closeList :: rest ↔ ∃ w, IsBlank w ∧ s = w ++ closeList :: rest :=
    dropSpaces_eq_cons.trans (and_iff_right rfl)
  rw [← hclose, listEnd]
  cases dropSpaces s with
  | nil => exact iff_of_false nofun nofun
  | cons b t =>
    by_cases hb : b = closeList
    · simp [hb]
    · simp only [hb, beq_iff_eq, if_false, List.cons.injEq, false_and, iff_false]
      split_ifs
      · cases dropSpaces t <;> exact nofun
      · exact nofun

/-- The values lead from `p` gathered to `q`, each read by the member in its place; members
without a value must not be required. -/
inductive Placed : List (Member σ) → σ → List Octets → σ → Prop
  | nil {members : List (Member σ)} (p : σ) (h : ∀ m ∈ members, m.isRequired = false) :
      Placed members p [] p
  | cons {member : Member σ} {members : List (Member σ)} {p p' q : σ} {v : Octets}
      {vs : List Octets} (read : Stands (member.read p) p' v) (more : Placed members p' vs q) :
      Placed (member :: members) p (v :: vs) q

theorem firstRequired_eq_none {members : List (Member σ)} {n : Nat} :
    firstRequired n members = none ↔ ∀ m ∈ members, m.isRequired = false := by
  induction members generalizing n with
  | nil => simp [firstRequired]
  | cons m ms ih =>
    rw [firstRequired, List.forall_mem_cons]
    cases hm : m.isRequired with
    | false => simp [ih]
    | true => simp

/-- What is read by position are values of a list. -/
theorem exists_of_readPositions {members : List (Member σ)}
    (hread : ∀ m ∈ members, ∀ p, Takes (m.read p) (Stands (m.read p))) {n : Nat} {isFirst : Bool}
    {p q : σ} {s rest : Octets}
    (h : shape.readPositions n isFirst p members s = .ok (q, rest)) :
    ∃ vs t, ListRest isFirst vs t ∧ Placed members p vs q ∧ s = t ++ rest := by
  induction members generalizing n isFirst p s with
  | nil =>
    rw [readPositions] at h
    obtain ⟨s', hend, hsame⟩ := exists_of_map h
    obtain ⟨rfl, rfl⟩ := Prod.mk.inj hsame
    obtain ⟨w, hw, rfl⟩ := listEnd_eq_ok.mp hend
    exact ⟨[], w ++ [closeList], .close hw, .nil p nofun, by simp⟩
  | cons m ms ih =>
    rw [readPositions] at h
    obtain ⟨step, hstep, hbehind⟩ := exists_of_bind_eq_ok h
    cases step with
    | close s' =>
      dsimp only at hbehind
      cases hrequired : firstRequired n (m :: ms) with
      | some k => simp [hrequired] at hbehind
      | none =>
        rw [hrequired] at hbehind
        obtain ⟨rfl, rfl⟩ := Prod.mk.inj (Except.ok.inj hbehind)
        obtain ⟨w, hw, rfl⟩ := listStep_close.mp hstep
        exact ⟨[], w ++ [closeList], .close hw, .nil p (firstRequired_eq_none.mp hrequired),
          by simp⟩
    | element s' =>
      obtain ⟨⟨p', s''⟩, hvalue, hrest⟩ := exists_of_bind_eq_ok hbehind
      obtain ⟨w', v, hw', hv, rfl⟩ := (hread m List.mem_cons_self p).eq_ok_iff.mp hvalue
      have hmore := fun m hm => hread m (List.mem_cons_of_mem _ hm)
      obtain ⟨vs, t, hvs, hplaced, rfl⟩ := ih hmore hrest
      cases isFirst with
      | true =>
        obtain ⟨w, hw, rfl⟩ := exists_of_listStep_first hstep
        exact ⟨v :: vs, _, .first (hw.append hw') hv.1 hvs, .cons hv hplaced, by simp⟩
      | false =>
        obtain ⟨w, w'', hw, hw'', rfl⟩ := exists_of_listStep_next hstep
        exact ⟨v :: vs, _, .next hw (hw''.append hw') hv.1 hvs, .cons hv hplaced, by simp⟩

/-- The values of a list are read by position. -/
theorem readPositions_of_placed {isFirst : Bool} {vs : List Octets} {t : Octets}
    (h : ListRest isFirst vs t) :
    ∀ {members : List (Member σ)} {n : Nat} {p q : σ}, Placed members p vs q → ∀ rest,
      shape.readPositions n isFirst p members (t ++ rest) = .ok (q, rest) := by
  induction h with
  | @close isFirst w hw =>
    intro members n p q hplaced rest
    cases hplaced with
    | nil _ hnone =>
      have hstep : listStep isFirst (w ++ [closeList] ++ rest) = .ok (.close rest) :=
        listStep_close.mpr ⟨w, hw, by simp⟩
      have hend : listEnd (w ++ [closeList] ++ rest) = .ok rest :=
        listEnd_eq_ok.mpr ⟨w, hw, by simp⟩
      cases members with
      | nil => simp only [readPositions, hend, Except.map]
      | cons m ms =>
        simp only [readPositions, hstep, bind, Except.bind, firstRequired_eq_none.mpr hnone]
  | @first w v s vs hw hv more ih =>
    intro members n p q hplaced rest
    cases hplaced with
    | cons hread hmore =>
      simp only [List.append_assoc, readPositions, listStep_first hw hv, bind, Except.bind,
        hread.2]
      exact ih hmore rest
  | @next w w' v s vs hw hw' hv more ih =>
    intro members n p q hplaced rest
    cases hplaced with
    | cons hread hmore =>
      simp only [List.append_assoc, List.cons_append, readPositions, listStep_next hw hw' hv, bind,
        Except.bind, hread.2]
      exact ih hmore rest

/-! ## Either form -/

/-- A list of the shape, and what it stands for. -/
def SpellsList (shape : Shape σ α) (a : α) (v : Octets) : Prop :=
  ∃ vs q, IsList vs v ∧ Placed shape.members shape.start vs q ∧ shape.finish q = a

theorem SpellsObject.exists_cons {a : α} {v : Octets} (h : shape.SpellsObject a v) :
    ∃ t, v = openObject :: t := by
  obtain ⟨ms, q, hobject, -⟩ := h
  cases hobject with
  | empty hw => exact ⟨_, rfl⟩
  | members hw hms => exact ⟨_, rfl⟩

theorem SpellsList.exists_cons {a : α} {v : Octets} (h : shape.SpellsList a v) :
    ∃ t, v = openList :: t := by
  obtain ⟨vs, q, ⟨t, -, rfl⟩, -⟩ := h
  exact ⟨t, rfl⟩

/-- What every member keeps, also holds of what has been gathered in the end. -/
theorem exists_kept {Inv : σ → Prop} (hstart : Inv shape.start)
    (hmember : ∀ m ∈ shape.members, ∀ {p p' v}, Stands (m.read p) p' v → Inv p → Inv p') {a : α}
    {v : Octets} (h : shape.SpellsObject a v ∨ shape.SpellsList a v) :
    ∃ q, Inv q ∧ shape.finish q = a := by
  have hgathered {p q : σ} {ms : List (String × Octets)} (h : shape.Gathered p ms q)
      (hp : Inv p) : Inv q := by
    induction h with
    | nil => exact hp
    | @cons p p' q key v ms puts more ih =>
      unfold Puts at puts
      split at puts
      · exact ih (puts ▸ hp)
      · rename_i member hfind
        exact ih (hmember member (List.mem_of_find?_eq_some hfind) puts.2 hp)
  have hplaced {members : List (Member σ)} (hmembers : ∀ m ∈ members, m ∈ shape.members) {p q : σ}
      {vs : List Octets} (h : Placed members p vs q) (hp : Inv p) : Inv q := by
    induction h with
    | nil => exact hp
    | cons read more ih =>
      exact ih (fun m hm => hmembers m (List.mem_cons_of_mem _ hm))
        (hmember _ (hmembers _ List.mem_cons_self) read hp)
  rcases h with ⟨ms, q, -, hq, -, hfinish⟩ | ⟨vs, q, -, hq, hfinish⟩
  · exact ⟨q, hgathered hq hstart, hfinish⟩
  · exact ⟨q, hplaced (fun _ hm => hm) hq hstart, hfinish⟩

/-- A shape takes an object, or a list, that spells it. -/
theorem takes_read (hshape : shape.IsRegular) :
    Takes shape.read fun a v => shape.SpellsObject a v ∨ shape.SpellsList a v := by
  refine .of_dropSpaces ?_ ?_ ?_
  · rintro a v (⟨ms, q, hobject, -⟩ | ⟨vs, q, hlist, -⟩)
    · exact hobject.isValue
    · exact hlist.isValue
  · intro s a rest hdrop
    simp [read, hdrop]
  · intro s b t a rest hdrop
    simp only [read, hdrop, beq_iff_eq]
    split_ifs with hobject hlist
    · subst hobject
      rw [readObject_eq_ok hshape]
      refine exists_congr fun v => and_congr_left fun hparts => ⟨.inl, ?_⟩
      rintro (h | h)
      · exact h
      · obtain ⟨u, rfl⟩ := h.exists_cons
        exact absurd (List.cons.inj hparts).1 (by decide)
    · subst hlist
      constructor
      · intro h
        obtain ⟨⟨q, rest'⟩, hread, hsame⟩ := exists_of_map h
        obtain ⟨rfl, rfl⟩ := Prod.mk.inj hsame
        obtain ⟨vs, u, hvs, hplaced, rfl⟩ := exists_of_readPositions hshape hread
        exact ⟨openList :: u, .inr ⟨vs, q, ⟨u, hvs, rfl⟩, hplaced, rfl⟩, rfl⟩
      · rintro ⟨v, h | ⟨vs, q, ⟨u, hvs, rfl⟩, hplaced, rfl⟩, hparts⟩
        · obtain ⟨u, rfl⟩ := h.exists_cons
          exact absurd (List.cons.inj hparts).1 (by decide)
        · have htail : t = u ++ rest := (List.cons.inj hparts).2
          rw [htail, readPositions_of_placed hvs hplaced rest]
          rfl
    · refine iff_of_false nofun ?_
      rintro ⟨v, h | h, hparts⟩
      · obtain ⟨u, rfl⟩ := h.exists_cons
        exact hobject (List.cons.inj hparts).1
      · obtain ⟨u, rfl⟩ := h.exists_cons
        exact hlist (List.cons.inj hparts).1

end Shape
end CatalogReplica.Json
