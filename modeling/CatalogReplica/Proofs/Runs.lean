/-
# CatalogReplica.Proofs.Runs -- what is true all through a run

A run is a list of acts that happen one after another, if each of them is possible where it
comes. What every act keeps true a run keeps true, and a run that is continued goes on from
where it has come to. What is counted up with some of the acts and with no others says how
many of these there were. Readings, which come one after another as well, all have to succeed.
-/
import Mathlib.Data.List.Induction

namespace CatalogReplica

variable {σ α : Type} {act : σ → α → Option σ} {a : α} {as : List α} {s t : σ}

/-- Where two readings in a row succeed, each of them does. -/
theorem exists_of_bind_eq_ok {ε α β : Type} {first : Except ε α} {next : α → Except ε β} {b : β}
    (h : first >>= next = .ok b) : ∃ a, first = .ok a ∧ next a = .ok b := by
  cases first with
  | error f => cases h
  | ok a => exact ⟨a, rfl, h⟩

/-- What is true at the beginning, and stays true with each of the acts, is true at the end. -/
theorem foldlM_preserves {P : σ → Prop}
    (hact : ∀ a ∈ as, ∀ s t, P s → act s a = some t → P t) (hs : P s)
    (hrun : as.foldlM act s = some t) : P t := by
  induction as generalizing s with
  | nil =>
    cases hrun
    exact hs
  | cons a as ih =>
    obtain ⟨u, hu, hrest⟩ := Option.bind_eq_some_iff.mp hrun
    have hacts : ∀ b ∈ as, ∀ s t, P s → act s b = some t → P t :=
      fun b hb => hact b (List.mem_cons_of_mem a hb)
    exact ih hacts (hact a List.mem_cons_self s u hs hu) hrest

/-- The acts that follow happen from where the first ones have led to. -/
theorem foldlM_append_of_some (hrun : as.foldlM act s = some t) (bs : List α) :
    (as ++ bs).foldlM act s = bs.foldlM act t := by
  rw [List.foldlM_append, hrun]
  rfl

/-- What is true of no acts, and stays true when one more happens, is true of all of them. -/
theorem foldlM_history {P : List α → σ → Prop}
    (hact : ∀ bs b t u, bs.foldlM act s = some t → P bs t → act t b = some u → P (bs ++ [b]) u)
    (hs : P [] s) (hrun : as.foldlM act s = some t) : P as t := by
  induction as using List.reverseRecOn generalizing t with
  | nil =>
    cases hrun
    exact hs
  | append_singleton bs b ih =>
    rw [List.foldlM_append] at hrun
    obtain ⟨u, hu, hlast⟩ := Option.bind_eq_some_iff.mp hrun
    obtain ⟨v, hv, hend⟩ := Option.bind_eq_some_iff.mp hlast
    cases hend
    exact hact bs b u t hu (ih hu) hv

/-! ## Counting acts -/

/-- An act that has happened, with what there was before and after it. -/
structure Passage (σ α : Type) where
  before : σ
  act : α
  after : σ

/-- What has happened in a run. -/
def passages (act : σ → α → Option σ) (s : σ) : List α → List (Passage σ α)
  | [] => []
  | a :: as =>
    match act s a with
    | none => []
    | some t => ⟨s, a, t⟩ :: passages act t as

theorem passages_cons (ha : act s a = some t) (as : List α) :
    passages act s (a :: as) = ⟨s, a, t⟩ :: passages act t as := by
  rw [passages, ha]

theorem passages_append (hrun : as.foldlM act s = some t) (bs : List α) :
    passages act s (as ++ bs) = passages act s as ++ passages act t bs := by
  induction as generalizing s with
  | nil =>
    cases hrun
    rfl
  | cons a as ih =>
    obtain ⟨u, hu, hrest⟩ := Option.bind_eq_some_iff.mp hrun
    rw [List.cons_append, passages_cons hu, passages_cons hu, ih hrest, List.cons_append]

/-- What goes up by one with each act of a kind, and with no other act, counts the acts of
that kind. -/
theorem foldlM_counts {P : σ → Prop} {f : σ → Nat} {isOfKind : Passage σ α → Bool}
    (hkeeps : ∀ s a t, P s → act s a = some t → P t)
    (hact : ∀ s a t, P s → act s a = some t →
      f t = f s + if isOfKind ⟨s, a, t⟩ then 1 else 0)
    (hs : P s) (hrun : as.foldlM act s = some t) :
    f t = f s + (passages act s as).countP isOfKind := by
  induction as generalizing s with
  | nil =>
    cases hrun
    rfl
  | cons a as ih =>
    obtain ⟨u, hu, hrest⟩ := Option.bind_eq_some_iff.mp hrun
    have hhere := hact s a u hs hu
    have hthere := ih (hkeeps s a u hs hu) hrest
    rw [passages_cons hu, List.countP_cons]
    omega

end CatalogReplica
