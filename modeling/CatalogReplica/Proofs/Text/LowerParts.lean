/-
# CatalogReplica.Proofs.Text.LowerParts -- lower-casing a part of a text

A text is lower-cased character by character, and all characters but one have the same
form wherever they stand. The exception is the capital sigma, which has another form where
it ends a word, and whether it does can depend on any number of characters on either side
of it. So the part of a text is lower-cased as it would be by itself if its capital sigmas
end words in the text just where they do in the part, and in no other case: both forms of
a sigma are one character long, so a sigma that differs cannot be made up for.
-/
import CatalogReplica.Text.Lower
import Mathlib.Data.List.Infix

namespace CatalogReplica

/-- Whether a capital sigma with this text before it and that one after it ends a word. -/
def endsWord (before after : List Char) : Bool :=
  reachesCased before.reverse && !reachesCased after

/-- Each capital sigma of a part ends a word in the whole text exactly if it ends one in the
part by itself. -/
def KeepsSigmas (before part after : List Char) : Prop :=
  ∀ u v, part = u ++ 'Σ' :: v → endsWord (before ++ u) (v ++ after) = endsWord u v

/-! ## One character -/

/-- The form of a character that stands between two texts. -/
def formBetween (before : List Char) (c : Char) (after : List Char) : List Char :=
  if c = 'Σ' then if endsWord before after then ['ς'] else ['σ'] else lowerChar c

theorem length_formBetween (before after before' after' : List Char) (c : Char) :
    (formBetween before c after).length = (formBetween before' c after').length := by
  unfold formBetween
  by_cases hc : c = 'Σ'
  · rw [if_pos hc, if_pos hc]
    split <;> split <;> rfl
  · rw [if_neg hc, if_neg hc]

theorem formBetween_eq_iff {before after before' after' : List Char} {c : Char} :
    formBetween before c after = formBetween before' c after' ↔
      (c = 'Σ' → endsWord before after = endsWord before' after') := by
  unfold formBetween
  by_cases hc : c = 'Σ'
  · rw [if_pos hc, if_pos hc]
    cases endsWord before after <;> cases endsWord before' after' <;> simp [hc]
  · simp [hc]

theorem lowerAfter_cons (before : List Char) (c : Char) (rest : List Char) :
    lowerAfter before.reverse (c :: rest) =
      formBetween before c rest ++ lowerAfter (before ++ [c]).reverse rest := by
  have hsigma : (c.toNat == 0x3A3) = true ↔ c = 'Σ' := by
    rw [beq_iff_eq]
    exact ⟨fun h => Char.toNat_inj.mp h, fun h => h ▸ rfl⟩
  rw [List.reverse_append, List.reverse_singleton, List.singleton_append]
  unfold formBetween endsWord
  by_cases hc : c = 'Σ'
  · rw [lowerAfter, if_pos hc, if_pos (hsigma.mpr hc)]
  · rw [lowerAfter, if_neg hc, if_neg (mt hsigma.mp hc)]

/-! ## A part -/

/-- The lower-case form of a part that stands between two texts. -/
def lowerBetween (before : List Char) : List Char → List Char → List Char
  | [], _ => []
  | c :: part, after =>
    formBetween before c (part ++ after) ++ lowerBetween (before ++ [c]) part after

/-- A part and the text after it are lower-cased apart, each with all that stands around it. -/
theorem lowerAfter_append (before part after : List Char) :
    lowerAfter before.reverse (part ++ after) =
      lowerBetween before part after ++ lowerAfter (before ++ part).reverse after := by
  induction part generalizing before with
  | nil => simp [lowerBetween]
  | cons c part ih =>
    rw [List.cons_append, lowerAfter_cons, ih, lowerBetween, List.append_assoc,
      List.append_assoc, List.singleton_append]

theorem lower_eq_lowerBetween (cs : List Char) : lower cs = lowerBetween [] cs [] := by
  have h := lowerAfter_append [] cs []
  simpa [lower, lowerAfter] using h

/-- A text is lower-cased part by part. -/
theorem lower_parts (before part after : List Char) :
    lower (before ++ part ++ after) = lowerBetween [] before (part ++ after) ++
      lowerBetween before part after ++ lowerBetween (before ++ part) after [] := by
  have hrest := lowerAfter_append (before ++ part) after []
  have hpart := lowerAfter_append before part after
  have hbefore := lowerAfter_append [] before (part ++ after)
  simp only [List.append_nil, List.nil_append, List.reverse_nil] at hrest hpart hbefore
  rw [lower, List.append_assoc, hbefore, hpart, hrest]
  simp [lowerAfter]

theorem length_lowerBetween (before part after before' after' : List Char) :
    (lowerBetween before part after).length = (lowerBetween before' part after').length := by
  induction part generalizing before before' with
  | nil => rfl
  | cons c part ih =>
    rw [lowerBetween, lowerBetween, List.length_append, List.length_append,
      length_formBetween before _ before' (part ++ after'), ih (before ++ [c]) (before' ++ [c])]

theorem lowerBetween_eq_iff {before part after before' after' : List Char} :
    lowerBetween before part after = lowerBetween before' part after' ↔
      ∀ u v, part = u ++ 'Σ' :: v →
        endsWord (before ++ u) (v ++ after) = endsWord (before' ++ u) (v ++ after') := by
  induction part generalizing before before' with
  | nil => simp [lowerBetween]
  | cons c part ih =>
    have hcut : lowerBetween before (c :: part) after = lowerBetween before' (c :: part) after' ↔
        formBetween before c (part ++ after) = formBetween before' c (part ++ after') ∧
          lowerBetween (before ++ [c]) part after = lowerBetween (before' ++ [c]) part after' := by
      constructor
      · intro h
        exact List.append_inj h (length_formBetween _ _ _ _ c)
      · rintro ⟨hform, hpart⟩
        rw [lowerBetween, lowerBetween, hform, hpart]
    rw [hcut, formBetween_eq_iff, ih]
    constructor
    · rintro ⟨hfirst, hlater⟩ u v hsplit
      -- the sigma is the first character, or one of the others
      cases u with
      | nil =>
        obtain ⟨hc, rfl⟩ := List.cons.inj hsplit
        simpa using hfirst hc
      | cons d u =>
        obtain ⟨rfl, hpart⟩ := List.cons.inj hsplit
        simpa using hlater u v hpart
    · intro h
      refine ⟨?_, ?_⟩
      · rintro rfl
        simpa using h [] part rfl
      · intro u v hsplit
        simpa using h (c :: u) v (by rw [hsplit]; rfl)

/-- A part is lower-cased as by itself exactly if its sigmas are kept. -/
theorem lowerBetween_eq_lower_iff {before part after : List Char} :
    lowerBetween before part after = lower part ↔ KeepsSigmas before part after := by
  rw [lower_eq_lowerBetween, lowerBetween_eq_iff]
  simp only [List.nil_append, List.append_nil]
  rfl

/-- The part in lower case stands in the whole text in lower case, at its own place, exactly
if its sigmas are kept. -/
theorem lower_in_place_iff {before part after : List Char} :
    (∃ x z, lower (before ++ part ++ after) = x ++ lower part ++ z ∧
      x.length = (lower before).length) ↔ KeepsSigmas before part after := by
  have hplace : (lowerBetween [] before (part ++ after)).length = (lower before).length := by
    rw [lower_eq_lowerBetween]
    exact length_lowerBetween _ _ _ _ _
  rw [lower_parts, ← lowerBetween_eq_lower_iff]
  constructor
  · rintro ⟨x, z, heq, hx⟩
    have hlength : (lowerBetween before part after).length = (lower part).length := by
      rw [lower_eq_lowerBetween]
      exact length_lowerBetween _ _ _ _ _
    rw [List.append_assoc, List.append_assoc] at heq
    exact (List.append_inj (List.append_inj heq (hplace.trans hx.symm)).2 hlength).1
  · intro hpart
    exact ⟨_, _, by rw [hpart], hplace⟩

theorem lower_infix_of_keepsSigmas {before part after : List Char}
    (h : KeepsSigmas before part after) : lower part <:+: lower (before ++ part ++ after) := by
  obtain ⟨x, z, heq, -⟩ := lower_in_place_iff.mpr h
  exact ⟨x, z, heq.symm⟩

/-- Without a capital sigma there is nothing to keep. -/
theorem keepsSigmas_of_not_mem {part : List Char} (h : 'Σ' ∉ part) (before after : List Char) :
    KeepsSigmas before part after := by
  intro u v hsplit
  exact absurd (hsplit ▸ List.mem_append_right u List.mem_cons_self) h

end CatalogReplica
