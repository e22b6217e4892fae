/-
# CatalogReplica.Proofs.Delivery.Log -- the log service and the group of a node

The log is one stream of entries with rising ids, which are never dropped, and the
group of one node. What the service does with a command is fixed up to what the
command leaves open: the id of a new entry, which pending entries a claim finds,
and that any command may be refused.

Two things are noted that the service does not keep: how far the position of the
group has ever been, and which entries were taken off the pending ones, on whose
behalf. The group is *sound* when nothing up to that furthest position is missing:
every such entry is pending, or was last taken off for a reason that counts.
-/
import CatalogReplica.Proofs.EntryId.Order
import CatalogReplica.Stream.Command
import Mathlib.Data.List.Nodup
import Mathlib.Order.MinMax

namespace CatalogReplica

/-- An entry of the stream: its id, and its names and values in turn. -/
structure LogEntry where
  id : EntryId
  values : List Octets
  deriving DecidableEq

/-- The group of a node. -/
structure Group where
  /-- The id behind which a read goes on. -/
  position : EntryId
  /-- What was delivered and not acknowledged. -/
  pending : List EntryId
  deriving DecidableEq

/-- On whose behalf an entry is acknowledged: a queue, and one of the events that
were received from it, counted from zero. -/
structure Receipt where
  queue : Nat
  event : Option Nat

/-- The stream with the group of one node. -/
structure Log where
  /-- The key of the stream. -/
  key : String
  /-- The name of the group. -/
  node : String
  entries : List LogEntry
  group : Option Group
  /-- The furthest position that the group ever had. -/
  highest : EntryId
  /-- What was taken off the pending entries, the last first. -/
  removals : List (EntryId × Receipt)

namespace LogEntry

/-- An entry as it stands in a reply. -/
def reply (x : LogEntry) : Reply :=
  .array [.bulk (Octets.ofString x.id.text), .array (x.values.map .bulk)]

end LogEntry

namespace Log

/-- Whether an entry is pending. -/
def Pending (l : Log) (id : EntryId) : Prop := ∃ g, l.group = some g ∧ id ∈ g.pending

/-- On whose behalf an entry was last taken off the pending ones. -/
def lastRemoval? (l : Log) (id : EntryId) : Option Receipt :=
  (l.removals.find? fun removal => removal.1 = id).map (·.2)

/-- Puts the group into a position. -/
def put (l : Log) (g : Group) : Log :=
  { l with group := some g, highest := Max.max l.highest g.position }

/-! ## What the service does -/

/-- The refusal where there is no group. -/
def noGroup : Refusal := ⟨"NOGROUP", some "No such key or consumer group"⟩

/-- Creates the group at the beginning, unless it is there. -/
def createGroup (l : Log) : Log × Outcome :=
  match l.group with
  | none => (l.put ⟨.zero, []⟩, .answered .okay)
  | some _ => (l, .refused ⟨"BUSYGROUP", some "Consumer Group name already exists"⟩)

/-- Moves the position; nothing else. -/
def moveTo (l : Log) (id : Option EntryId) : Log × Outcome :=
  match l.group with
  | none => (l, .refused noGroup)
  | some g => (l.put { g with position := id.getD .zero }, .answered .okay)

/-- Delivers the first entry behind the position, which becomes pending. -/
def read (l : Log) : Log × Outcome :=
  match l.group with
  | none => (l, .refused noGroup)
  | some g =>
    match l.entries.find? fun x => g.position < x.id with
    | none => (l, .answered .nil)
    | some x =>
      (l.put ⟨x.id, x.id :: g.pending⟩,
        .answered (.array [.array [.bulk (Octets.ofString l.key), .array [x.reply]]]))

/-- Delivers pending entries again. Which ones, and the cursor that is returned, is
the service's choice. -/
def claim (l : Log) (cursor : String) (ids : List EntryId) : Option Outcome :=
  match l.group with
  | none => some (.refused noGroup)
  | some g =>
    if ∀ id ∈ ids, id ∈ g.pending then
      let found := l.entries.filter fun x => x.id ∈ ids
      some (.answered (.array [.bulk (Octets.ofString cursor),
        .array (found.map LogEntry.reply), .array []]))
    else none

/-- Takes an entry off the pending ones. -/
def acknowledge (l : Log) (id : EntryId) (r : Receipt) : Log × Outcome :=
  match l.group with
  | none => (l, .answered (.int 0))
  | some g =>
    if id ∈ g.pending then
      ({ l with
        group := some { g with pending := g.pending.filter (· ≠ id) }
        removals := (id, r) :: l.removals }, .answered (.int 1))
    else (l, .answered (.int 0))

/-- Appends an entry, whose id is behind all others. -/
def append (l : Log) (id : EntryId) (values : List Octets) : Option Log :=
  if .zero < id ∧ ∀ x ∈ l.entries, x.id < id then
    some { l with entries := l.entries ++ [⟨id, values⟩] }
  else none

/-- How the service deals with a command, as far as that is its choice. -/
inductive Choice where
  | refuse (r : Refusal)
  | obey
  /-- A claim finds these entries. -/
  | find (cursor : String) (ids : List EntryId)
  /-- A new entry gets this id. -/
  | name (id : EntryId)

/-- The log after a command that concerns it, and the outcome. -/
def serve (l : Log) (r : Receipt) : Command → Choice → Option (Log × Outcome)
  | _, .refuse refusal => some (l, .refused refusal)
  | .createGroup key node, .obey =>
    if key = l.key ∧ node = l.node then some l.createGroup else none
  | .position key node id, .obey =>
    if key = l.key ∧ node = l.node then some (l.moveTo id) else none
  | .read key node _, .obey => if key = l.key ∧ node = l.node then some l.read else none
  | .claim key node _ _, .find cursor ids =>
    if key = l.key ∧ node = l.node then (l.claim cursor ids).map fun o => (l, o) else none
  | .acknowledge key node id, .obey =>
    if key = l.key ∧ node = l.node then some (l.acknowledge id r) else none
  | .append key payload, .name id =>
    if key = l.key then
      (l.append id [Octets.ofString payloadField, Octets.ofString payload]).map fun l =>
        (l, .answered (.bulk (Octets.ofString id.text)))
    else none
  | _, _ => none

/-- What becomes of the log with a command, and how the command is answered. -/
inductive Serves (l : Log) (r : Receipt) : Command → Log → Outcome → Prop where
  | refuses (c : Command) (refusal : Refusal) : Serves l r c l (.refused refusal)
  | creates (key node : String) (hg : l.group = none) :
    Serves l r (.createGroup key node) (l.put ⟨.zero, []⟩) (.answered .okay)
  | places (key node : String) (id : Option EntryId) {g : Group} (hg : l.group = some g) :
    Serves l r (.position key node id) (l.put { g with position := id.getD .zero })
      (.answered .okay)
  | readsNothing (key node : String) (block : Nat) :
    Serves l r (.read key node block) l (.answered .nil)
  | reads (key node : String) (block : Nat) {g : Group} (hg : l.group = some g) {x : LogEntry}
      (hx : (l.entries.find? fun x => g.position < x.id) = some x) :
    Serves l r (.read key node block) (l.put ⟨x.id, x.id :: g.pending⟩)
      (.answered (.array [.array [.bulk (Octets.ofString l.key), .array [x.reply]]]))
  | claims (key node : String) (minIdle : Nat) (start cursor : String) {g : Group}
      (hg : l.group = some g) {ids : List EntryId} (hids : ∀ id ∈ ids, id ∈ g.pending) :
    Serves l r (.claim key node minIdle start) l (.answered (.array
      [.bulk (Octets.ofString cursor),
        .array ((l.entries.filter fun x => x.id ∈ ids).map LogEntry.reply), .array []]))
  | acknowledges (key node : String) {id : EntryId} {g : Group} (hg : l.group = some g)
      (hid : id ∈ g.pending) :
    Serves l r (.acknowledge key node id)
      { l with
        group := some { g with pending := g.pending.filter (· ≠ id) }
        removals := (id, r) :: l.removals } (.answered (.int 1))
  | acknowledgesNothing (key node : String) (id : EntryId) :
    Serves l r (.acknowledge key node id) l (.answered (.int 0))
  | appends (key payload : String) {id : EntryId} {values : List Octets} {l' : Log}
      (hl : l.append id values = some l') :
    Serves l r (.append key payload) l' (.answered (.bulk (Octets.ofString id.text)))

section Serving

variable {l l' : Log} {r : Receipt} {key node : String} {id : EntryId} {o : Outcome}

theorem serves_createGroup (h : l.createGroup = (l', o)) :
    l.Serves r (.createGroup key node) l' o := by
  unfold createGroup at h
  split at h <;> cases h
  case h_1 hg => exact .creates key node hg
  case h_2 => exact .refuses _ _

theorem serves_moveTo {id : Option EntryId} (h : l.moveTo id = (l', o)) :
    l.Serves r (.position key node id) l' o := by
  unfold moveTo at h
  split at h <;> cases h
  case h_1 => exact .refuses _ _
  case h_2 g hg => exact .places key node id hg

theorem serves_read {block : Nat} (h : l.read = (l', o)) :
    l.Serves r (.read key node block) l' o := by
  unfold read at h
  split at h
  case h_1 =>
    cases h
    exact .refuses _ _
  case h_2 g hg =>
    split at h <;> cases h
    case h_1 => exact .readsNothing key node block
    case h_2 x hx => exact .reads key node block hg hx

theorem serves_claim {minIdle : Nat} {start cursor : String} {ids : List EntryId}
    (h : l.claim cursor ids = some o) : l.Serves r (.claim key node minIdle start) l o := by
  unfold claim at h
  split at h
  case h_1 =>
    cases h
    exact .refuses _ _
  case h_2 g hg =>
    obtain ⟨hids, h⟩ := Option.ite_none_right_eq_some.mp h
    cases h
    exact .claims key node minIdle start cursor hg hids

theorem serves_acknowledge (h : l.acknowledge id r = (l', o)) :
    l.Serves r (.acknowledge key node id) l' o := by
  unfold acknowledge at h
  split at h
  case h_1 =>
    cases h
    exact .acknowledgesNothing key node id
  case h_2 g hg =>
    split at h <;> cases h
    case isTrue hid => exact .acknowledges key node hg hid
    case isFalse => exact .acknowledgesNothing key node id

theorem serves_of_serve {c : Command} {s : Choice} (h : l.serve r c s = some (l', o)) :
    l.Serves r c l' o := by
  unfold serve at h
  split at h
  case h_1 refusal =>
    cases h
    exact .refuses c refusal
  case h_2 => exact serves_createGroup (Option.some.inj (Option.ite_none_right_eq_some.mp h).2)
  case h_3 => exact serves_moveTo (Option.some.inj (Option.ite_none_right_eq_some.mp h).2)
  case h_4 => exact serves_read (Option.some.inj (Option.ite_none_right_eq_some.mp h).2)
  case h_5 =>
    obtain ⟨-, h⟩ := Option.ite_none_right_eq_some.mp h
    obtain ⟨o, hclaim, ⟨⟩⟩ := Option.map_eq_some_iff.mp h
    exact serves_claim hclaim
  case h_6 => exact serves_acknowledge (Option.some.inj (Option.ite_none_right_eq_some.mp h).2)
  case h_7 key payload id =>
    obtain ⟨-, h⟩ := Option.ite_none_right_eq_some.mp h
    obtain ⟨l'', happend, ⟨⟩⟩ := Option.map_eq_some_iff.mp h
    exact .appends key payload happend
  case h_8 => cases h

end Serving

/-! ## Soundness -/

/-- Entries stay, and the furthest position only rises. -/
structure Grows (l l' : Log) : Prop where
  entries : ∀ x ∈ l.entries, x ∈ l'.entries
  highest : l.highest ≤ l'.highest

theorem Grows.refl (l : Log) : l.Grows l := ⟨fun _ hx => hx, le_refl _⟩

theorem Grows.trans {l l' l'' : Log} (h : l.Grows l') (h' : l'.Grows l'') : l.Grows l'' :=
  ⟨fun x hx => h'.entries x (h.entries x hx), le_trans h.highest h'.highest⟩

/-- Nothing is missing: each entry up to the furthest position is pending, or was
last taken off on behalf of somebody who counts. -/
structure Sound (Counts : EntryId → Receipt → Prop) (l : Log) : Prop where
  above : ∀ x ∈ l.entries, .zero < x.id
  rising : l.entries.Pairwise fun x y => x.id < y.id
  /-- The furthest position is no place that an entry is still to come to. -/
  reached : l.highest = .zero ∨ ∃ x ∈ l.entries, l.highest ≤ x.id
  position_le : ∀ {g}, l.group = some g → g.position ≤ l.highest
  pending_le : ∀ {id}, l.Pending id → id ≤ l.highest
  settled : ∀ x ∈ l.entries, x.id ≤ l.highest →
    l.Pending x.id ∨ ∃ r, l.lastRemoval? x.id = some r ∧ Counts x.id r

section Sound

variable {Counts : EntryId → Receipt → Prop} {l : Log}

theorem pending_iff {g : Group} (hg : l.group = some g) (id : EntryId) :
    l.Pending id ↔ id ∈ g.pending := by
  constructor
  · rintro ⟨g₁, hg₁, hid⟩
    rw [hg] at hg₁
    cases hg₁
    exact hid
  · intro hid
    exact ⟨g, hg, hid⟩

theorem not_pending (hg : l.group = none) (id : EntryId) : ¬ l.Pending id := by
  rintro ⟨g, hg', -⟩
  rw [hg] at hg'
  cases hg'

/-- Who counts may become more. -/
theorem Sound.mono {Counts' : EntryId → Receipt → Prop} (h : l.Sound Counts)
    (hmore : ∀ id r, Counts id r → Counts' id r) : l.Sound Counts' where
  above := h.above
  rising := h.rising
  reached := h.reached
  position_le := h.position_le
  pending_le := h.pending_le
  settled x hx hle := by
    rcases h.settled x hx hle with hpending | ⟨r, hr, hcounts⟩
    · exact .inl hpending
    · exact .inr ⟨r, hr, hmore x.id r hcounts⟩

/-- An entry is known by its id. -/
theorem Sound.entry_unique (h : l.Sound Counts) {x y : LogEntry} (hx : x ∈ l.entries)
    (hy : y ∈ l.entries) (hid : x.id = y.id) : x = y := by
  have hnodup : (l.entries.map (·.id)).Nodup :=
    List.pairwise_map.mpr (h.rising.imp fun hlt => ne_of_lt hlt)
  exact List.inj_on_of_nodup_map hnodup hx hy hid

/-- A group is put somewhere without loss when it keeps what is pending, and what
lies between the furthest position so far and the new one becomes pending. -/
theorem Sound.put (h : l.Sound Counts) {g : Group} (hkeeps : ∀ id, l.Pending id → id ∈ g.pending)
    (hbound : ∀ id ∈ g.pending, id ≤ Max.max l.highest g.position)
    (hplace : g.position ≤ l.highest ∨ ∃ x ∈ l.entries, x.id = g.position)
    (hbetween : ∀ x ∈ l.entries, l.highest < x.id → x.id ≤ g.position → x.id ∈ g.pending) :
    (l.put g).Sound Counts := by
  have hpending (id : EntryId) : (l.put g).Pending id ↔ id ∈ g.pending := pending_iff rfl id
  constructor
  case above => exact h.above
  case rising => exact h.rising
  case reached =>
    -- either the furthest position stays what it was, or it becomes that of an entry
    show Max.max l.highest g.position = .zero ∨ ∃ x ∈ l.entries, Max.max l.highest g.position ≤ x.id
    rcases le_total g.position l.highest with hle | hle
    · rw [max_eq_left hle]
      exact h.reached
    · rw [max_eq_right hle]
      rcases hplace with hback | ⟨x, hx, hid⟩
      · rw [le_antisymm hback hle]
        exact h.reached
      · exact .inr ⟨x, hx, hid ▸ le_refl _⟩
  case position_le =>
    intro g₁ hg₁
    cases hg₁
    exact le_max_right _ _
  case pending_le =>
    intro id hid
    exact hbound id ((hpending id).mp hid)
  case settled =>
    intro x hx hle
    -- an entry is either one that the group had come to before, or lies in between
    by_cases hbefore : x.id ≤ l.highest
    · rcases h.settled x hx hbefore with hid | hremoved
      · exact .inl ((hpending x.id).mpr (hkeeps x.id hid))
      · exact .inr hremoved
    · have hnew : l.highest < x.id := lt_of_not_ge hbefore
      have hle' : x.id ≤ g.position := (le_max_iff.mp hle).resolve_left hbefore
      exact .inl ((hpending x.id).mpr (hbetween x hx hnew hle'))

theorem grows_put (l : Log) (g : Group) : l.Grows (l.put g) :=
  ⟨fun _ hx => hx, le_max_left _ _⟩

/-! ## Every command keeps the group sound -/

/-- A new group stands at the beginning, before every entry. -/
theorem Sound.creates (h : l.Sound Counts) (hg : l.group = none) :
    (l.put ⟨.zero, []⟩).Sound Counts := by
  refine h.put (fun id hid => absurd hid (not_pending hg id)) ?_ ?_ ?_
  · intro id hid
    exact absurd hid List.not_mem_nil
  · exact .inl (EntryId.zero_le _)
  · intro x hx _ hle
    exact absurd (h.above x hx) (not_lt_of_ge hle)

/-- To move the group, back or forth, to a place where it has been loses nothing. -/
theorem Sound.places (h : l.Sound Counts) {g : Group} (hg : l.group = some g)
    {id : Option EntryId} (hid : ∀ i ∈ id, i ≤ l.highest) :
    (l.put { g with position := id.getD .zero }).Sound Counts := by
  have hback : id.getD .zero ≤ l.highest := by
    cases id with
    | none => exact EntryId.zero_le _
    | some i => exact hid i rfl
  -- nothing lies between the furthest position and one that is not further
  refine h.put (fun i hi => (pending_iff hg i).mp hi) ?_ (.inl hback) ?_
  · intro i hi
    exact le_trans (h.pending_le ((pending_iff hg i).mpr hi)) (le_max_left _ _)
  · intro x _ hlt hle
    exact absurd (le_trans hle hback) (not_le_of_gt hlt)

/-- The first entry behind some position lies before all others behind it. -/
theorem first_le (hrising : l.entries.Pairwise fun x y => x.id < y.id) {p : EntryId}
    {x y : LogEntry} (hx : (l.entries.find? fun x => p < x.id) = some x) (hy : y ∈ l.entries)
    (hlt : p < y.id) : x.id ≤ y.id := by
  -- all entries in front of `x` do not lie behind `p`, and all others rise from `x` on
  obtain ⟨-, before, after, hsplit, hbefore⟩ := List.find?_eq_some_iff_append.mp hx
  rw [hsplit] at hy hrising
  rcases List.mem_append.mp hy with hy | hy
  · have hnot := hbefore y hy
    simp only [Bool.not_eq_true', decide_eq_false_iff_not] at hnot
    exact absurd hlt hnot
  · rcases List.mem_cons.mp hy with rfl | hy
    · exact le_refl _
    · have hcons := (List.pairwise_append.mp hrising).2.1
      exact le_of_lt (List.rel_of_pairwise_cons hcons hy)

theorem Sound.reads (h : l.Sound Counts) {g : Group} (hg : l.group = some g) {x : LogEntry}
    (hx : (l.entries.find? fun x => g.position < x.id) = some x) :
    (l.put ⟨x.id, x.id :: g.pending⟩).Sound Counts := by
  have hmem : x ∈ l.entries := List.mem_of_find?_eq_some hx
  refine h.put ?_ ?_ (.inr ⟨x, hmem, rfl⟩) ?_
  · intro id hid
    exact List.mem_cons_of_mem _ ((pending_iff hg id).mp hid)
  · intro id hid
    rcases List.mem_cons.mp hid with rfl | hid
    · exact le_max_right _ _
    · exact le_trans (h.pending_le ((pending_iff hg id).mpr hid)) (le_max_left _ _)
  · intro y hy hlt hle
    -- what was never read lies behind the position too, so `x` comes first
    have hbehind : g.position < y.id := lt_of_le_of_lt (h.position_le hg) hlt
    have hfirst : x.id ≤ y.id := first_le h.rising hx hy hbehind
    rw [le_antisymm hle hfirst]
    exact List.mem_cons_self

theorem Sound.acknowledges (h : l.Sound Counts) {g : Group} (hg : l.group = some g)
    {id : EntryId} {r : Receipt} (hr : Counts id r) :
    ({ l with
      group := some { g with pending := g.pending.filter (· ≠ id) }
      removals := (id, r) :: l.removals } : Log).Sound Counts := by
  constructor
  case above => exact h.above
  case rising => exact h.rising
  case reached => exact h.reached
  case position_le =>
    intro g₁ hg₁
    cases hg₁
    have hle : g.position ≤ l.highest := h.position_le hg
    exact hle
  case pending_le =>
    rintro i ⟨g₁, hg₁, hi⟩
    cases hg₁
    exact h.pending_le ((pending_iff hg i).mpr (List.mem_filter.mp hi).1)
  case settled =>
    intro x hx hle
    -- the entry itself is settled by this removal, all others as they were before
    by_cases hsame : x.id = id
    · refine .inr ⟨r, ?_, hsame ▸ hr⟩
      simp [lastRemoval?, hsame]
    · rcases h.settled x hx hle with hpending | ⟨r', hr', hcounts⟩
      · refine .inl ⟨_, rfl, ?_⟩
        have hx' : x.id ∈ g.pending := (pending_iff hg x.id).mp hpending
        simp [hx', hsame]
      · refine .inr ⟨r', ?_, hcounts⟩
        have hother : id ≠ x.id := fun e => hsame e.symm
        simpa [lastRemoval?, hother] using hr'

theorem append_eq_some {id : EntryId} {values : List Octets} {l' : Log}
    (happend : l.append id values = some l') :
    .zero < id ∧ (∀ x ∈ l.entries, x.id < id) ∧
      l' = { l with entries := l.entries ++ [⟨id, values⟩] } := by
  unfold Log.append at happend
  split at happend
  case isTrue hid =>
    cases happend
    exact ⟨hid.1, hid.2, rfl⟩
  case isFalse => cases happend

theorem above_append (habove : ∀ x ∈ l.entries, .zero < x.id) {y : LogEntry}
    (hzero : .zero < y.id) : ∀ x ∈ l.entries ++ [y], .zero < x.id := by
  intro x hx
  rcases List.mem_append.mp hx with hx | hx
  · exact habove x hx
  · rw [List.mem_singleton.mp hx]
    exact hzero

theorem rising_append (hrising : l.entries.Pairwise fun x y => x.id < y.id) {y : LogEntry}
    (hlast : ∀ x ∈ l.entries, x.id < y.id) :
    (l.entries ++ [y]).Pairwise fun x y => x.id < y.id := by
  refine List.pairwise_append.mpr ⟨hrising, List.pairwise_singleton _ _, ?_⟩
  intro x hx z hz
  rw [List.mem_singleton.mp hz]
  exact hlast x hx

theorem Sound.append (h : l.Sound Counts) {id : EntryId} {values : List Octets} {l' : Log}
    (happend : l.append id values = some l') : l'.Sound Counts ∧ l.Grows l' := by
  obtain ⟨hzero, hlast, rfl⟩ := append_eq_some happend
  -- here `reached` is needed: the group has not been where the new entry comes to stand
  have hnew : l.highest < id := by
    rcases h.reached with hstart | ⟨x, hx, hle⟩
    · exact hstart ▸ hzero
    · exact lt_of_le_of_lt hle (hlast x hx)
  refine ⟨?_, fun x hx => List.mem_append_left _ hx, le_refl _⟩
  constructor
  case above => exact above_append h.above hzero
  case rising => exact rising_append h.rising hlast
  case reached =>
    rcases h.reached with hstart | ⟨x, hx, hle⟩
    · exact .inl hstart
    · exact .inr ⟨x, List.mem_append_left _ hx, hle⟩
  case position_le => exact h.position_le
  case pending_le => exact h.pending_le
  case settled =>
    intro x hx hle
    rcases List.mem_append.mp hx with hx | hx
    · exact h.settled x hx hle
    · rw [List.mem_singleton.mp hx] at hle
      exact absurd hnew (not_lt_of_ge hle)

end Sound
end Log
end CatalogReplica
