/-
# CatalogReplica.Proofs.Delivery.PendingScan -- how far a claim looks

A claim looks at ten pending entries at most, beginning at its cursor, and it stops at the
first one that nobody has touched for long enough. So a claim may find nothing although there
is something to be found, and the next one has to go on where it stopped. Behind the last
entry the service sends the cursor back to the beginning.

How far an entry is from being reached is counted in claims: one for each entry from the
cursor up to it, if it lies ahead, and otherwise one for each entry up to the end, and again
one for each from the beginning. Every claim looks at one of these entries or more, and none
is looked at twice. That is never more than one claim for each pending entry, and one more.
-/
import CatalogReplica.Proofs.Delivery.Log
import CatalogReplica.Proofs.EntryId.Order

namespace CatalogReplica

/-! ## Pending entries -/

/-- A pending entry, and the number of milliseconds in which nobody has touched it. -/
structure Unacked where
  entry : LogEntry
  idle : Nat
  deriving DecidableEq

/-- The id of a pending entry. -/
def Unacked.id (p : Unacked) : EntryId := p.entry.id

/-- The pending entries of a group, in the order of ids. -/
structure PendingList where
  items : List Unacked
  rising : (items.map Unacked.id).Pairwise (· < ·)

/-- How many entries a claim looks at, at most. -/
def claimWindow : Nat := 10

/-- Looks at some entries, one after another, up to the first that is stale. The result is
that entry, and what lies behind the last one that was looked at. -/
def examine (minIdle : Nat) : Nat → List Unacked → Option Unacked × List Unacked
  | 0, rest => (none, rest)
  | _ + 1, [] => (none, [])
  | n + 1, p :: rest => if minIdle < p.idle then (some p, rest) else examine minIdle n rest

namespace PendingList

/-- The ids of the entries. -/
def ids (l : PendingList) : List EntryId := l.items.map Unacked.id

/-- What a claim finds, and where the next one is to start. -/
def scan (l : PendingList) (minIdle : Nat) (start : EntryId) : Option Unacked × EntryId :=
  let (found, rest) := examine minIdle claimWindow (l.items.filter (start ≤ ·.id))
  (found, (rest.head?.map Unacked.id).getD .zero)

/-- What a command finds, if it is a claim whose cursor is an id. -/
def find (l : PendingList) : Command → Option (Option Unacked × EntryId)
  | .claim _ _ minIdle cursor => (EntryId.read? cursor).map (l.scan minIdle)
  | _ => none

/-- What was found is not idle any more. -/
def touched (found : Option Unacked) (p : Unacked) : Unacked :=
  if found = some p then { p with idle := 0 } else p

theorem id_touched (found : Option Unacked) (p : Unacked) : (touched found p).id = p.id := by
  unfold touched
  split <;> rfl

theorem map_id_touched (found : Option Unacked) (ps : List Unacked) :
    (ps.map (touched found)).map Unacked.id = ps.map Unacked.id := by
  rw [List.map_map]
  exact List.map_congr_left fun p _ => id_touched found p

/-- The pending entries after a claim. -/
def touch (l : PendingList) (found : Option Unacked) : PendingList where
  items := l.items.map (touched found)
  rising := by
    rw [map_id_touched]
    exact l.rising

variable {l : PendingList} {found : Option Unacked} {p q : Unacked}

@[simp] theorem ids_touch (l : PendingList) (found : Option Unacked) :
    (l.touch found).ids = l.ids := map_id_touched found l.items

theorem id_mem_ids (h : p ∈ l.items) : p.id ∈ l.ids := List.mem_map_of_mem h

/-- An entry is known by its id. -/
theorem eq_of_id (hp : p ∈ l.items) (hq : q ∈ l.items) (h : p.id = q.id) : p = q :=
  List.inj_on_of_nodup_map (l.rising.imp fun hlt => ne_of_lt hlt) hp hq h

theorem mem_touch (hp : p ∈ l.items) (h : found ≠ some p) : p ∈ (l.touch found).items := by
  have hsame : touched found p = p := if_neg h
  exact hsame ▸ List.mem_map_of_mem hp

/-- What is idle after a claim was there before, and is not what was found. -/
theorem mem_of_mem_touch (hp : p ∈ (l.touch found).items) (hidle : p.idle ≠ 0) :
    p ∈ l.items ∧ found ≠ some p := by
  obtain ⟨q, hq, rfl⟩ := List.mem_map.mp hp
  unfold touched at hidle ⊢
  split at hidle
  case isTrue => exact absurd rfl hidle
  case isFalse hne =>
    rw [if_neg hne]
    exact ⟨hq, hne⟩

end PendingList

/-! ## One look -/

/-- Something is looked at if there is anything, nothing stale is passed over, and only what
is stale is found. -/
theorem examine_spec {minIdle : Nat} : ∀ {n : Nat} {ps rest : List Unacked}
    {found : Option Unacked}, examine minIdle n ps = (found, rest) → ∃ seen, ps = seen ++ rest ∧
      (n ≠ 0 → ps ≠ [] → seen ≠ []) ∧ (∀ p ∈ seen, minIdle < p.idle → found = some p) ∧
      ∀ p, found = some p → p ∈ seen ∧ minIdle < p.idle
  | 0, ps, rest, found, h => by
    cases h
    exact ⟨[], rfl, fun hn => absurd rfl hn, by simp, by simp⟩
  | n + 1, [], rest, found, h => by
    cases h
    exact ⟨[], rfl, fun _ hps => absurd rfl hps, by simp, by simp⟩
  | n + 1, p :: ps, rest, found, h => by
    unfold examine at h
    split at h
    case isTrue hstale =>
      cases h
      exact ⟨[p], rfl, by simp, by simp, by simp [hstale]⟩
    case isFalse hbusy =>
      obtain ⟨seen, hps, -, hpassed, hfound⟩ := examine_spec h
      refine ⟨p :: seen, by rw [hps, List.cons_append], by simp, ?_, ?_⟩
      · intro q hq hstale
        rcases List.mem_cons.mp hq with rfl | hq
        · exact absurd hstale hbusy
        · exact hpassed q hq hstale
      · intro q hq
        exact ⟨List.mem_cons_of_mem p (hfound q hq).1, (hfound q hq).2⟩

/-! ## How far an entry is -/

/-- The ids from one on. -/
def EntryId.ahead (ids : List EntryId) (start : EntryId) : List EntryId := ids.filter (start ≤ ·)

/-- How many claims it takes at most until an entry was looked at. -/
def EntryId.turns (ids : List EntryId) (start x : EntryId) : Nat :=
  if start ≤ x then (ahead ids start).countP (· ≤ x)
  else Max.max 1 (ahead ids start).length + ids.countP (· ≤ x)

namespace EntryId

variable {ids seen rest : List EntryId} {start x r : EntryId}

theorem mem_ahead : x ∈ ahead ids start ↔ x ∈ ids ∧ start ≤ x := by
  simp [ahead]

theorem ahead_zero (ids : List EntryId) : ahead ids .zero = ids := by
  simp [ahead, zero_le]

/-- The ids from one of those ahead on. -/
theorem ahead_ahead (h : start ≤ r) : ahead (ahead ids start) r = ahead ids r := by
  unfold ahead
  rw [List.filter_filter]
  refine List.filter_congr ?_
  intro i _
  simpa using fun hri => h.trans hri

/-- What lies behind a part of the ids begins with its own first one. -/
theorem ahead_head (hids : ids.Pairwise (· < ·)) (h : ahead ids start = seen ++ r :: rest) :
    ahead ids r = r :: rest := by
  have hr : start ≤ r := (mem_ahead.mp (h ▸ List.mem_append_right seen List.mem_cons_self)).2
  have hrising : (seen ++ r :: rest).Pairwise (· < ·) := h ▸ hids.filter _
  obtain ⟨-, hbehind, hseen⟩ := List.pairwise_append.mp hrising
  have hleft : ahead seen r = [] := by
    refine List.filter_eq_nil_iff.mpr ?_
    intro i hi
    simpa using hseen i hi r List.mem_cons_self
  have hright : ahead (r :: rest) r = r :: rest := by
    refine List.filter_eq_self.mpr ?_
    intro i hi
    rcases List.mem_cons.mp hi with rfl | hi
    · simp
    · simpa using ((List.pairwise_cons.mp hbehind).1 i hi).le
  calc ahead ids r = ahead (seen ++ r :: rest) r := by rw [← h, ahead_ahead hr]
    _ = ahead seen r ++ ahead (r :: rest) r := List.filter_append ..
    _ = r :: rest := by rw [hleft, hright, List.nil_append]

theorem turns_le (ids : List EntryId) (start x : EntryId) : turns ids start x ≤ ids.length + 1 := by
  unfold turns
  split
  case isTrue =>
    have hahead : (ahead ids start).length ≤ ids.length := List.length_filter_le _ _
    exact (List.countP_le_length.trans hahead).trans (Nat.le_succ _)
  case isFalse hlt =>
    -- what lies ahead of the cursor is not among what lies up to the entry
    have hapart : (ahead ids start).length ≤ ids.countP fun i => ¬ decide (i ≤ x) := by
      rw [ahead, ← List.countP_eq_length_filter]
      refine List.countP_mono_left ?_
      intro i _ hi
      simp only [decide_eq_true_eq] at hi ⊢
      exact fun hix => hlt (hi.trans hix)
    have hall : ids.length = ids.countP (· ≤ x) + ids.countP fun i => ¬ decide (i ≤ x) :=
      List.length_eq_countP_add_countP _
    omega

theorem turns_pos (hx : x ∈ ids) : 0 < turns ids start x := by
  unfold turns
  split
  case isTrue h =>
    refine List.countP_pos_iff.mpr ⟨x, mem_ahead.mpr ⟨hx, h⟩, ?_⟩
    simp
  case isFalse => omega

/-- All up to the end were looked at. -/
theorem turns_zero (hx : x < start) : turns ids .zero x < turns ids start x := by
  have hzero : turns ids .zero x = ids.countP (· ≤ x) := by
    rw [turns, if_pos (zero_le x), ahead_zero]
  have hstart : turns ids start x = Max.max 1 (ahead ids start).length + ids.countP (· ≤ x) :=
    if_neg (not_le_of_gt hx)
  omega

/-- Some were looked at, but not the one that is looked for. -/
theorem turns_head (hids : ids.Pairwise (· < ·)) (h : ahead ids start = seen ++ r :: rest)
    (hseen : seen ≠ []) (hx : start ≤ x → r ≤ x) : turns ids r x < turns ids start x := by
  have hpos : 0 < seen.length := List.length_pos_iff.mpr hseen
  have hahead : ahead ids r = r :: rest := ahead_head hids h
  have hr : start ≤ r := (mem_ahead.mp (h ▸ List.mem_append_right seen List.mem_cons_self)).2
  by_cases hstart : start ≤ x
  · -- it lies ahead of both
    have hrx : r ≤ x := hx hstart
    have hrising : (seen ++ r :: rest).Pairwise (· < ·) := h ▸ hids.filter _
    have hall : seen.countP (· ≤ x) = seen.length := by
      refine List.countP_eq_length.mpr ?_
      intro i hi
      have hlt := (List.pairwise_append.mp hrising).2.2 i hi r List.mem_cons_self
      simpa using hlt.le.trans hrx
    rw [turns, turns, if_pos hstart, if_pos hrx, hahead, h, List.countP_append, hall]
    omega
  · have hrx : ¬ r ≤ x := fun hrx => hstart (hr.trans hrx)
    rw [turns, turns, if_neg hstart, if_neg hrx, hahead, h, List.length_append, List.length_cons]
    omega

end EntryId

namespace PendingList

variable {l : PendingList} {minIdle : Nat} {start next : EntryId} {found : Option Unacked}
  {p : Unacked}

theorem ids_ahead (l : PendingList) (start : EntryId) :
    EntryId.ahead l.ids start = (l.items.filter (start ≤ ·.id)).map Unacked.id := by
  unfold EntryId.ahead ids
  rw [List.filter_map]
  rfl

theorem found_of_scan (h : l.scan minIdle start = (some p, next)) :
    p ∈ l.items ∧ minIdle < p.idle := by
  unfold scan at h
  cases hlook : examine minIdle claimWindow (l.items.filter (start ≤ ·.id)) with
  | mk found rest =>
    rw [hlook] at h
    cases h
    obtain ⟨seen, hps, -, -, hfound⟩ := examine_spec hlook
    obtain ⟨hp, hstale⟩ := hfound p rfl
    have hmem : p ∈ l.items.filter (start ≤ ·.id) := hps ▸ List.mem_append_left rest hp
    exact ⟨(List.mem_filter.mp hmem).1, hstale⟩

/-- A claim finds an entry that is stale, or it comes closer to it. -/
theorem found_or_closer (h : l.scan minIdle start = (found, next)) (hp : p ∈ l.items)
    (hstale : minIdle < p.idle) :
    found = some p ∨ EntryId.turns l.ids next p.id < EntryId.turns l.ids start p.id := by
  unfold scan at h
  cases hlook : examine minIdle claimWindow (l.items.filter (start ≤ ·.id)) with
  | mk found' rest =>
    rw [hlook] at h
    cases h
    obtain ⟨seen, hps, hsome, hpassed, -⟩ := examine_spec hlook
    by_cases hseen : p ∈ seen
    · exact .inl (hpassed p hseen hstale)
    · right
      have hrest : start ≤ p.id → p ∈ rest := by
        intro hle
        have hmem : p ∈ seen ++ rest := hps ▸ List.mem_filter.mpr ⟨hp, by simpa using hle⟩
        exact (List.mem_append.mp hmem).resolve_left hseen
      cases rest with
      | nil =>
        refine EntryId.turns_zero (not_le.mp ?_)
        intro hle
        cases hrest hle
      | cons r rest =>
        have hids : EntryId.ahead l.ids start = seen.map Unacked.id ++ r.id :: rest.map Unacked.id := by
          rw [ids_ahead, hps, List.map_append, List.map_cons]
        have hne : seen ≠ [] := by
          refine hsome (by decide) ?_
          rw [hps]
          simp
        have hrising : l.ids.Pairwise (· < ·) := l.rising
        refine EntryId.turns_head hrising hids (by simpa using hne) ?_
        intro hle
        have hmem : p.id ∈ EntryId.ahead l.ids r.id := by
          rw [EntryId.ahead_head hrising hids]
          exact List.mem_map_of_mem (hrest hle)
        exact (EntryId.mem_ahead.mp hmem).2

end PendingList
end CatalogReplica
