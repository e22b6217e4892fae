/-
# CatalogReplica.Proofs.Settings.StreamKeys -- which settings name the same stream

The key of a stream is the name of the cluster, a colon, and the subject. Nothing keeps colons
out of the two names, so that some keys can be taken apart in several ways, and every way is
that of some settings. Two settings have the same key exactly if they have the same cluster
and subject, or if the cluster of the one goes on, behind a colon, with what the subject of the
other begins with (`streamKey_eq_iff`). Where the clusters have no colon in their names, the
key tells them apart.
-/
import CatalogReplica.Settings

namespace CatalogReplica

/-- Where a text is taken apart at a separator in two ways, either both are the same, or what
lies between the two places belongs to the end of one beginning and to the beginning of the
other end. -/
theorem append_cons_eq_append_cons_iff {α : Type} {sep : α} {as bs cs ds : List α} :
    as ++ sep :: bs = cs ++ sep :: ds ↔ (as = cs ∧ bs = ds) ∨
      (∃ ms, as = cs ++ sep :: ms ∧ ds = ms ++ sep :: bs) ∨
      ∃ ms, cs = as ++ sep :: ms ∧ bs = ms ++ sep :: ds := by
  constructor
  · intro h
    rcases List.append_eq_append_iff.mp h with ⟨rest, rfl, hrest⟩ | ⟨rest, rfl, hrest⟩
    -- the first beginning is part of the second one, or the other way round
    · cases rest with
      | nil =>
        obtain ⟨-, rfl⟩ := List.cons.inj hrest
        exact .inl ⟨(List.append_nil as).symm, rfl⟩
      | cons c ms =>
        obtain ⟨rfl, rfl⟩ := List.cons.inj hrest
        exact .inr (.inr ⟨ms, rfl, rfl⟩)
    · cases rest with
      | nil =>
        obtain ⟨-, rfl⟩ := List.cons.inj hrest
        exact .inl ⟨List.append_nil cs, rfl⟩
      | cons c ms =>
        obtain ⟨rfl, rfl⟩ := List.cons.inj hrest
        exact .inr (.inl ⟨ms, rfl, rfl⟩)
  · rintro (⟨rfl, rfl⟩ | ⟨ms, rfl, rfl⟩ | ⟨ms, rfl, rfl⟩)
    · rfl
    · rw [List.append_assoc, List.cons_append]
    · rw [List.append_assoc, List.cons_append]

namespace QueueSettings

variable {s t : QueueSettings}

/-- The cluster of some settings goes on behind that of others, with a colon and what the
subject of the others begins with; behind it and another colon stands the subject of these. -/
def Overlaps (s t : QueueSettings) : Prop :=
  ∃ middle, s.clusterId = t.clusterId ++ ":" ++ middle ∧ t.subject = middle ++ ":" ++ s.subject

theorem toList_streamKey (s : QueueSettings) :
    s.streamKey.toList = s.clusterId.toList ++ ':' :: s.subject.toList := by
  simp [streamKey]

theorem overlaps_iff_toList : s.Overlaps t ↔ ∃ ms,
    s.clusterId.toList = t.clusterId.toList ++ ':' :: ms ∧
      t.subject.toList = ms ++ ':' :: s.subject.toList := by
  constructor
  · rintro ⟨middle, hcluster, hsubject⟩
    exact ⟨middle.toList, by simp [hcluster], by simp [hsubject]⟩
  · rintro ⟨ms, hcluster, hsubject⟩
    refine ⟨String.ofList ms, ?_, ?_⟩
    · simp [← String.toList_inj, hcluster]
    · simp [← String.toList_inj, hsubject]

/-- Two settings have the same key exactly if they have the same names, or if these overlap. -/
theorem streamKey_eq_iff : s.streamKey = t.streamKey ↔
    (s.clusterId = t.clusterId ∧ s.subject = t.subject) ∨ s.Overlaps t ∨ t.Overlaps s := by
  rw [← String.toList_inj, toList_streamKey, toList_streamKey, append_cons_eq_append_cons_iff,
    String.toList_inj, String.toList_inj, overlaps_iff_toList, overlaps_iff_toList]

/-- A cluster without a colon in its name does not go on behind another one. -/
theorem not_overlaps_of_cluster (h : ':' ∉ s.clusterId.toList) : ¬ s.Overlaps t := by
  intro hoverlaps
  obtain ⟨ms, hcluster, -⟩ := overlaps_iff_toList.mp hoverlaps
  rw [hcluster] at h
  exact h (List.mem_append_right _ List.mem_cons_self)

end QueueSettings
end CatalogReplica
