/-
# CatalogReplica.Proofs.Cache.Searching -- names that contain a text

A search compares the text with the name after both were lower-cased, each as a whole. So
it finds a record by any part of its name that is lower-cased in the name as it is by
itself. This is true of every part, wherever it is cut out and however long the lower-case
forms are, unless it has a capital sigma that ends a word in the part alone. Such a part
may be missed although the name contains it as it stands.
-/
import CatalogReplica.Proofs.Cache.Histories
import CatalogReplica.Proofs.Text.LowerParts

namespace CatalogReplica.Cache

/-- A category in which a record has a place is searched. -/
theorem exists_query? {c : Cache} (h : c.Consistent) {id : String} {r : Record}
    (hr : c.get? id = some r) (text : String) (sorted : Bool) :
    ∃ rs, c.query? r.category text sorted = some rs := by
  apply Option.ne_none_iff_exists'.mp
  intro hnone
  exact ((serves_of_consistent h).query?_eq_none _ _ _).mp hnone id r hr rfl

/-- A record is found by a text that its name contains in lower case. -/
theorem found_of_infix {c : Cache} (h : c.Consistent) {id : String} {r : Record}
    (hr : c.get? id = some r) {text : String} (htext : lower text.toList <:+: lower r.name.toList)
    (sorted : Bool) : ∃ rs, c.query? r.category text sorted = some rs ∧ r ∈ rs := by
  obtain ⟨rs, hrs⟩ := exists_query? h hr text sorted
  refine ⟨rs, hrs, ?_⟩
  apply ((serves_of_consistent h).mem_query? hrs r).mpr
  exact ⟨id, hr, rfl, (selects_iff text r.name).mpr (.inr htext)⟩

/-- Wherever a text stands in the name of a record that is served, the name in lower case
has the text in lower case at that place exactly if the capital sigmas of the text end words
there as they do in the text. If they do, the record is found by the text, and by a text
without capital sigmas it always is. -/
theorem found_if_sigmas_kept (es : List Edit) :
    let c := empty.afterEdits es
    ∀ (id : String) (r : Record), c.get? id = some r → ∀ text : String,
      (∀ before after, r.name.toList = before ++ text.toList ++ after →
        ((∃ x z, lower r.name.toList = x ++ lower text.toList ++ z ∧
            x.length = (lower before).length) ↔ KeepsSigmas before text.toList after) ∧
        (KeepsSigmas before text.toList after → ∀ sorted,
          ∃ rs, c.query? r.category text sorted = some rs ∧ r ∈ rs)) ∧
      ('Σ' ∉ text.toList → text.toList <:+: r.name.toList → ∀ sorted,
        ∃ rs, c.query? r.category text sorted = some rs ∧ r ∈ rs) := by
  intro c id r hr text
  have hc : c.Consistent := Reachable.consistent ⟨es, rfl⟩
  have hfound : ∀ before after, r.name.toList = before ++ text.toList ++ after →
      KeepsSigmas before text.toList after → ∀ sorted,
        ∃ rs, c.query? r.category text sorted = some rs ∧ r ∈ rs := by
    intro before after hname hkeeps sorted
    apply found_of_infix hc hr
    rw [hname]
    exact lower_infix_of_keepsSigmas hkeeps
  refine ⟨fun before after hname => ⟨?_, hfound before after hname⟩, ?_⟩
  · rw [hname]
    exact lower_in_place_iff
  · rintro hsigma ⟨before, after, hname⟩ sorted
    exact hfound before after hname.symm (keepsSigmas_of_not_mem hsigma before after) sorted

/-- Two names. The first begins with the letters that are a word of their own in the second. -/
def streets : List Edit := [
  .upsert { id := "1", category := "signs", name := "ΟΔΟΣΗΜΑ" },
  .upsert { id := "2", category := "signs", name := "ΟΔΟΣ ΣΟΦΙΑΣ, İZMİR" }]

/-- Two sigmas of the text end words, in the text and in the name, and one does not. -/
theorem found_across_words :
    (empty.afterEdits streets).get? "2" =
        some { id := "2", category := "signs", name := "ΟΔΟΣ ΣΟΦΙΑΣ, İZMİR" } ∧
      "ΟΔΟΣ ΣΟΦΙΑΣ, İZMİR".toList = ['Ο'] ++ "ΔΟΣ ΣΟΦΙΑΣ, İ".toList ++ "ZMİR".toList ∧
      KeepsSigmas ['Ο'] "ΔΟΣ ΣΟΦΙΑΣ, İ".toList "ZMİR".toList ∧
      ∃ rs, (empty.afterEdits streets).query? "signs" "ΔΟΣ ΣΟΦΙΑΣ, İ" true = some rs ∧
        { id := "2", category := "signs", name := "ΟΔΟΣ ΣΟΦΙΑΣ, İZMİR" } ∈ rs := by
  have hget : (empty.afterEdits streets).get? "2" =
      some { id := "2", category := "signs", name := "ΟΔΟΣ ΣΟΦΙΑΣ, İZMİR" } := by
    decide +kernel
  have hname : "ΟΔΟΣ ΣΟΦΙΑΣ, İZMİR".toList =
      ['Ο'] ++ "ΔΟΣ ΣΟΦΙΑΣ, İ".toList ++ "ZMİR".toList := by
    decide
  have hkeeps : KeepsSigmas ['Ο'] "ΔΟΣ ΣΟΦΙΑΣ, İ".toList "ZMİR".toList := by
    rw [← lowerBetween_eq_lower_iff]
    decide +kernel
  obtain ⟨hplaces, -⟩ := found_if_sigmas_kept streets "2" _ hget "ΔΟΣ ΣΟΦΙΑΣ, İ"
  exact ⟨hget, hname, hkeeps, (hplaces _ _ hname).2 hkeeps true⟩

/-- By itself the text ends with a final sigma, and in the name it does not. -/
theorem beginning_of_word_missed :
    ∃ (c : Cache) (r : Record), c.Reachable ∧ c.get? "1" = some r ∧
      "ΟΔΟΣ".toList <:+: r.name.toList ∧
      ∀ sorted, c.query? r.category "ΟΔΟΣ" sorted = some [] := by
  refine ⟨empty.afterEdits (streets.take 1),
    { id := "1", category := "signs", name := "ΟΔΟΣΗΜΑ" }, ⟨_, rfl⟩, by decide +kernel, ?_, ?_⟩
  · exact ⟨[], "ΗΜΑ".toList, by decide⟩
  · intro sorted
    cases sorted <;> decide +kernel

end CatalogReplica.Cache
