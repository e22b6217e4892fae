/-
# CatalogReplica.Proofs.Json.Writing -- written forms in the grammar

What is written obeys the grammar that is read: a written text is a string that spells it, a
written object has the members it was written from, in that order (`isObject_written`), and a
written list the values (`isList_written`). A reader of lists takes exactly the lists whose
values its reader of elements takes (`takes_list`).
-/
import CatalogReplica.Proofs.Json.Objects
import CatalogReplica.Proofs.Wire.RoundTrip
import Mathlib.Data.List.Forall2

namespace CatalogReplica.Json

/-! ## Texts and objects -/

/-- A written text behind its opening quote. -/
theorem exists_spells_written (text : String) :
    ∃ t, Spells (Octets.ofString text) t ∧
      Octets.ofChars (text.toList.flatMap escapedChar ++ ['"']) = t ++ [quote] := by
  have hread := stringBody_written text []
  rw [List.append_nil] at hread
  exact stringBody_eq_ok.mp hread

theorem spellsText_written (text : String) :
    SpellsText text (Octets.ofChars (stringChars text)) := by
  obtain ⟨t, ht, hchars⟩ := exists_spells_written text
  refine ⟨t, ht, ?_⟩
  show quote :: Octets.ofChars (text.toList.flatMap escapedChar ++ ['"']) = _
  rw [hchars]

theorem spellsBool_written (b : Bool) : SpellsBool b (Octets.ofChars (boolChars b)) := by
  cases b with
  | false => rfl
  | true => rfl

/-- The members of a written object, with their values in octets. -/
def membersOf (ws : List Written) : List (String × Octets) :=
  ws.map fun (key, value) => (key, Octets.ofChars value)

theorem members_written {ws : List Written} {w : Written}
    (h : ∀ v ∈ w :: ws, IsValue (Octets.ofChars v.2)) :
    Members (membersOf (w :: ws)) (quote :: Octets.ofChars (fromFirstKey w ws)) := by
  have hkey : SpellsText w.1
      (quote :: Octets.ofChars (w.1.toList.flatMap escapedChar ++ ['"'])) :=
    spellsText_written w.1
  induction ws generalizing w with
  | nil =>
    have hmember := Members.last hkey isBlank_nil isBlank_nil (h w List.mem_cons_self) isBlank_nil
    have hchars := Shape.ofChars_member w [Char.ofNat 0x7D] []
    rw [List.append_nil, List.append_nil] at hchars
    rw [fromFirstKey, hchars]
    exact hmember
  | cons v vs ih =>
    have hmore := ih (List.forall_mem_cons.mp h).2 (spellsText_written v.1)
    have hmember := Members.cons hkey isBlank_nil isBlank_nil (h w List.mem_cons_self) isBlank_nil
      isBlank_nil hmore
    have hchars := Shape.ofChars_member w (',' :: '"' :: fromFirstKey v vs) []
    rw [List.append_nil, List.append_nil] at hchars
    rw [fromFirstKey, hchars]
    exact hmember

/-- A written object has the members it was written from. -/
theorem isObject_written {ws : List Written} (h : ∀ w ∈ ws, IsValue (Octets.ofChars w.2)) :
    IsObject (membersOf ws) (Octets.ofChars (objectChars ws)) := by
  cases ws with
  | nil => exact .empty isBlank_nil
  | cons w ws =>
    rw [objectChars_cons]
    exact .members isBlank_nil (members_written h)

/-! ## Written lists -/

/-- Values behind the first one are written behind a comma each. -/
theorem flatten_intersperse_cons (v : List Char) (vs : List (List Char)) :
    ((v :: vs).intersperse [',']).flatten = v ++ vs.flatMap (',' :: ·) := by
  induction vs generalizing v with
  | nil => simp
  | cons u us ih =>
    rw [List.intersperse_cons_cons, List.flatten_cons, List.flatten_cons, ih]
    rfl

theorem listRest_written {vs : List (List Char)} (h : ∀ v ∈ vs, IsValue (Octets.ofChars v)) :
    ListRest false (vs.map Octets.ofChars)
      (Octets.ofChars (vs.flatMap (',' :: ·)) ++ [closeList]) := by
  induction vs with
  | nil => exact .close isBlank_nil
  | cons v vs ih =>
    obtain ⟨hv, hvs⟩ := List.forall_mem_cons.mp h
    have hmore := ListRest.next isBlank_nil isBlank_nil hv (ih hvs)
    rw [List.flatMap_cons, List.cons_append, Octets.ofChars_cons, Octets.ofChars_append,
      show Octets.ofChar ',' = [comma] from rfl]
    simpa using hmore

/-- A written list has the values it was written from. -/
theorem isList_written {vs : List (List Char)} (h : ∀ v ∈ vs, IsValue (Octets.ofChars v)) :
    IsList (vs.map Octets.ofChars) (Octets.ofChars (listChars vs)) := by
  cases vs with
  | nil => exact ⟨_, .close isBlank_nil, rfl⟩
  | cons v vs =>
    obtain ⟨hv, hvs⟩ := List.forall_mem_cons.mp h
    refine ⟨_, .first isBlank_nil hv (listRest_written hvs), ?_⟩
    show openList :: Octets.ofChars (((v :: vs).intersperse [',']).flatten ++ [']']) = _
    rw [flatten_intersperse_cons, Octets.ofChars_append, Octets.ofChars_append, List.nil_append,
      List.append_assoc]
    rfl

/-! ## Reading lists -/

variable {α : Type} {r : Reader α} {P : α → Octets → Prop}

/-- A list whose values stand for these elements. -/
def SpellsElements (P : α → Octets → Prop) (as : List α) (v : Octets) : Prop :=
  ∃ vs, IsList vs v ∧ List.Forall₂ P as vs

theorem ListRest.length_lt {isFirst : Bool} {vs : List Octets} {s : Octets}
    (h : ListRest isFirst vs s) : vs.length < s.length := by
  have hpos : ∀ {v : Octets}, IsValue v → 0 < v.length := by
    intro v hv
    obtain ⟨b, t, rfl, -⟩ := Grammar.opens hv
    exact Nat.zero_lt_succ _
  induction h with
  | close hw => simp
  | first hw hv more ih =>
    have := hpos hv
    simp only [List.length_append, List.length_cons]
    omega
  | next hw hw' hv more ih =>
    simp only [List.length_append, List.length_cons]
    omega

/-- What is read as elements are values of a list that stand for them. -/
theorem exists_of_readElements (h : Takes r P) {fuel : Nat} {isFirst : Bool} {as : List α}
    {s rest : Octets} (hread : readElements r isFirst fuel s = .ok (as, rest)) :
    ∃ vs t, ListRest isFirst vs t ∧ List.Forall₂ P as vs ∧ s = t ++ rest := by
  induction fuel generalizing isFirst as s with
  | zero => cases hread
  | succ fuel ih =>
    obtain ⟨step, hstep, hbehind⟩ := exists_of_bind_eq_ok hread
    cases step with
    | close s' =>
      obtain ⟨rfl, rfl⟩ := Prod.mk.inj (Except.ok.inj hbehind)
      obtain ⟨w, hw, rfl⟩ := listStep_close.mp hstep
      exact ⟨[], w ++ [closeList], .close hw, .nil, by simp⟩
    | element s' =>
      obtain ⟨⟨a, s''⟩, hvalue, hrest⟩ := exists_of_bind_eq_ok hbehind
      obtain ⟨⟨as', rest'⟩, hmore, hok⟩ := exists_of_bind_eq_ok hrest
      obtain ⟨rfl, rfl⟩ := Prod.mk.inj (Except.ok.inj hok)
      obtain ⟨w', v, hw', ha, rfl⟩ := h.eq_ok_iff.mp hvalue
      obtain ⟨vs, t, hvs, has, rfl⟩ := ih hmore
      cases isFirst with
      | true =>
        obtain ⟨w, hw, rfl⟩ := exists_of_listStep_first hstep
        exact ⟨v :: vs, _, .first (hw.append hw') (h.isValue ha) hvs, .cons ha has, by simp⟩
      | false =>
        obtain ⟨w, w'', hw, hw'', rfl⟩ := exists_of_listStep_next hstep
        exact ⟨v :: vs, _, .next hw (hw''.append hw') (h.isValue ha) hvs, .cons ha has, by simp⟩

/-- The values of a list are read; each takes one unit of fuel, and the end another. -/
theorem readElements_of_listRest (h : Takes r P) {isFirst : Bool} {vs : List Octets} {t : Octets}
    (hvs : ListRest isFirst vs t) :
    ∀ {as : List α} {fuel : Nat}, List.Forall₂ P as vs → vs.length < fuel → ∀ rest,
      readElements r isFirst fuel (t ++ rest) = .ok (as, rest) := by
  have hvalue : ∀ {a : α} {v : Octets}, P a v → ∀ s, r (v ++ s) = .ok (a, s) :=
    fun ha s => h.reads isBlank_nil ha s
  induction hvs with
  | @close isFirst w hw =>
    intro as fuel has hfuel rest
    obtain ⟨fuel, rfl⟩ : ∃ n, fuel = n + 1 := ⟨fuel - 1, by simp at hfuel; omega⟩
    cases has
    have hstep : listStep isFirst (w ++ [closeList] ++ rest) = .ok (.close rest) :=
      listStep_close.mpr ⟨w, hw, by simp⟩
    simp only [readElements, hstep, bind, Except.bind]
  | @first w v s vs hw hv more ih =>
    intro as fuel has hfuel rest
    obtain ⟨fuel, rfl⟩ : ∃ n, fuel = n + 1 := ⟨fuel - 1, by simp at hfuel; omega⟩
    cases has with
    | cons ha has =>
      have hmore := ih has (Nat.lt_of_succ_lt_succ hfuel) rest
      simp only [List.append_assoc, readElements, listStep_first hw hv, hvalue ha, hmore, bind,
        Except.bind]
  | @next w w' v s vs hw hw' hv more ih =>
    intro as fuel has hfuel rest
    obtain ⟨fuel, rfl⟩ : ∃ n, fuel = n + 1 := ⟨fuel - 1, by simp at hfuel; omega⟩
    cases has with
    | cons ha has =>
      have hmore := ih has (Nat.lt_of_succ_lt_succ hfuel) rest
      simp only [List.append_assoc, List.cons_append, readElements, listStep_next hw hw' hv,
        hvalue ha, hmore, bind, Except.bind]

/-- A reader of lists takes the lists whose values its reader of elements takes. -/
theorem takes_list (h : Takes r P) : Takes (readList r) (SpellsElements P) := by
  refine .of_dropSpaces (fun ⟨_, hlist, _⟩ => hlist.isValue) ?_ ?_
  · intro s as rest hdrop
    simp [readList, hdrop]
  · intro s b t as rest hdrop
    simp only [readList, hdrop, beq_iff_eq]
    split_ifs with hopen
    · subst hopen
      constructor
      · intro hread
        obtain ⟨vs, u, hvs, has, rfl⟩ := exists_of_readElements h hread
        exact ⟨openList :: u, ⟨vs, ⟨u, hvs, rfl⟩, has⟩, rfl⟩
      · rintro ⟨v, ⟨vs, ⟨u, hvs, rfl⟩, has⟩, hparts⟩
        obtain rfl : t = u ++ rest := (List.cons.inj hparts).2
        have hfuel : vs.length < (u ++ rest).length + 1 := by
          have := hvs.length_lt
          rw [List.length_append]
          omega
        exact readElements_of_listRest h hvs has hfuel rest
    · refine iff_of_false nofun ?_
      rintro ⟨v, ⟨vs, ⟨u, -, rfl⟩, -⟩, hparts⟩
      exact hopen (List.cons.inj hparts).1

end CatalogReplica.Json
