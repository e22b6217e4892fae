/-
# CatalogReplica.Proofs.Delivery.Backlog -- what a new queue of an old node may skip

A queue that has just been made goes to the beginning of the log, wherever its group was
left by the earlier queues of the node, so as to read the whole backlog. When it loses
its connection it goes back to the furthest entry that it was given. Had it been given
entries in their order, everything up to that one would have been read. But before it
reads it claims, and what earlier queues have left pending may lie far ahead of where it
has read to. If that is where it goes, it skips what lies between, and what of this is
not pending is never delivered to it.

So the furthest entry is not enough to go by. This is the invariant that holds: nothing
up to a place where a queue goes is missing, but in front of an entry that earlier queues
left, and that was claimed and not read.
-/
import CatalogReplica.Proofs.Delivery.Given

namespace CatalogReplica
namespace Endpoint

/-! ## What the service and a queue have between them -/

/-- Of the entries up to an id each was given to this queue, but for those in front of
one that was claimed and not read. -/
def Covers (p : Endpoint) (l : Log) (b : EntryId) : Prop :=
  ∀ x ∈ l.entries, x.id ≤ b → p.WasGiven x.id ∨
    ∃ i, p.WasClaimed i ∧ ¬ p.WasRead i ∧ x.id < i ∧ i ≤ b

/-- What the service and a queue have between them, where `Left` are the entries that
were pending when the queue was made. -/
structure Account (Left : EntryId → Prop) (l : Log) (p : Endpoint) : Prop where
  above : ∀ x ∈ l.entries, .zero < x.id
  rising : l.entries.Pairwise fun x y => x.id < y.id
  given : ∀ {id}, p.WasGiven id → ∃ x ∈ l.entries, x.id = id
  /-- What was given is pending until a caller has received it. -/
  kept : ∀ {id}, p.WasGiven id → l.Pending id ∨ p.HasReceived id
  pending : ∀ {id}, l.Pending id → Left id ∨ p.WasRead id
  claimed : ∀ {id}, p.WasClaimed id → Left id ∨ p.WasRead id
  front : ∀ {id}, p.WasRead id → p.Covers l id
  /-- Once this queue has placed the group, the group is where the queue was. -/
  position : p.IsPlaced → ∀ {g}, l.group = some g → g.position = .zero ∨ p.WasGiven g.position

variable {Left : EntryId → Prop} {l l' : Log} {p p' : Endpoint}

/-- Nothing is missing up to the beginning, and up to any entry that was given. -/
theorem Account.covers (h : p.Account Left l) {b : EntryId} (hb : b = .zero ∨ p.WasGiven b) :
    p.Covers l b := by
  intro x hx hle
  rcases hb with rfl | hread | hclaimed
  · exact absurd (h.above x hx) (not_lt_of_ge hle)
  · exact h.front hread x hx hle
  · by_cases hread : p.WasRead b
    · exact h.front hread x hx hle
    · -- `b` itself is the entry that was claimed and not read, unless it is `x`
      rcases lt_or_eq_of_le hle with hlt | heq
      · exact .inr ⟨b, hclaimed, hread, hlt, le_refl b⟩
      · exact .inl (.inr (heq ▸ hclaimed))

/-- Nothing was given, and nothing has become pending. -/
theorem Account.keeps (h : p.Account Left l) (hread : p'.WasRead = p.WasRead)
    (hclaimed : p'.WasClaimed = p.WasClaimed)
    (hreceived : ∀ {id}, p.HasReceived id → p'.HasReceived id)
    (hentries : l'.entries = l.entries)
    (hkept : ∀ {id}, l.Pending id → l'.Pending id ∨ p'.HasReceived id)
    (hpending : ∀ {id}, l'.Pending id → l.Pending id)
    (hposition : p'.IsPlaced → ∀ {g}, l'.group = some g →
      g.position = .zero ∨ p.WasGiven g.position) : p'.Account Left l' := by
  have hgiven : p'.WasGiven = p.WasGiven := by
    unfold WasGiven
    rw [hread, hclaimed]
  constructor
  case above =>
    rw [hentries]
    exact h.above
  case rising =>
    rw [hentries]
    exact h.rising
  case given =>
    rw [hgiven, hentries]
    exact h.given
  case kept =>
    rw [hgiven]
    intro id hid
    rcases h.kept hid with hold | hdone
    · exact hkept hold
    · exact .inr (hreceived hdone)
  case pending =>
    rw [hread]
    intro id hid
    exact h.pending (hpending hid)
  case claimed =>
    rw [hread, hclaimed]
    exact h.claimed
  case front =>
    unfold Covers
    rw [hread, hclaimed, hgiven, hentries]
    exact h.front
  case position =>
    rw [hgiven]
    exact hposition

/-- What a queue does on its own changes nothing between it and the service. -/
theorem Account.goes (h : p.Account Left l) (hgoes : p.Goes p') : p'.Account Left l := by
  have hread : p'.WasRead = p.WasRead := by
    unfold WasRead
    rw [hgoes.answers]
  have hclaimed : p'.WasClaimed = p.WasClaimed := by
    unfold WasClaimed
    rw [hgoes.answers]
  refine h.keeps hread hclaimed hgoes.received rfl .inl (fun hid => hid) ?_
  intro hplaced
  exact h.position (hgoes.isPlaced ▸ hplaced)

/-- A new entry lies behind all that was given. -/
theorem Account.append (h : p.Account Left l) {id : EntryId} {values : List Octets}
    (hl : l.append id values = some l') : p.Account Left l' := by
  obtain ⟨hzero, hlast, rfl⟩ := Log.append_eq_some hl
  constructor
  case above => exact Log.above_append h.above hzero
  case rising => exact Log.rising_append h.rising hlast
  case given =>
    intro i hi
    obtain ⟨x, hx, hxi⟩ := h.given hi
    exact ⟨x, List.mem_append_left _ hx, hxi⟩
  case kept => exact h.kept
  case pending => exact h.pending
  case claimed => exact h.claimed
  case front =>
    intro i hi x hx hle
    rcases List.mem_append.mp hx with hx | hx
    · exact h.front hi x hx hle
    · obtain ⟨y, hy, rfl⟩ := h.given (.inl hi)
      rw [List.mem_singleton.mp hx] at hle
      exact absurd (hlast y hy) (not_lt_of_ge hle)
  case position => exact h.position

/-- A claim gives what is pending. -/
theorem Account.claims (h : p.Account Left l) {k : Nat} {c : Command} (hc : c.isRead = false)
    (hprepares : c.isPreparing = false) {o : Outcome}
    (ho : ∀ id ∈ o.claimedIds, l.Pending id ∧ ∃ x ∈ l.entries, x.id = id) :
    (p.answered k c o).Account Left l := by
  have hread (id : EntryId) : (p.answered k c o).WasRead id ↔ p.WasRead id := by
    rw [wasRead_answered, hc]
    simp
  have hclaimed {id : EntryId} (hid : (p.answered k c o).WasClaimed id) :
      id ∈ o.claimedIds ∨ p.WasClaimed id := by
    rcases wasClaimed_answered.mp hid with ⟨-, hnew⟩ | hold
    · exact .inl hnew
    · exact .inr hold
  have hgiven {id : EntryId} (hid : (p.answered k c o).WasGiven id) :
      id ∈ o.claimedIds ∨ p.WasGiven id := by
    rcases hid with hid | hid
    · exact .inr (.inl ((hread id).mp hid))
    · rcases hclaimed hid with hnew | hold
      · exact .inl hnew
      · exact .inr (.inr hold)
  constructor
  case above => exact h.above
  case rising => exact h.rising
  case given =>
    intro id hid
    rcases hgiven hid with hnew | hold
    · exact (ho id hnew).2
    · exact h.given hold
  case kept =>
    intro id hid
    rcases hgiven hid with hnew | hold
    · exact .inl (ho id hnew).1
    · exact h.kept hold
  case pending =>
    intro id hid
    rw [hread]
    exact h.pending hid
  case claimed =>
    intro id hid
    rw [hread]
    rcases hclaimed hid with hnew | hold
    · exact h.pending (ho id hnew).1
    · exact h.claimed hold
  case front =>
    -- what was claimed and not read before is still not read
    intro id hid x hx hle
    rcases h.front ((hread id).mp hid) x hx hle with hold | ⟨i, hi, hnot, hbetween⟩
    · exact .inl hold.answered
    · refine .inr ⟨i, wasClaimed_answered.mpr (.inr hi), ?_, hbetween⟩
      rwa [hread]
  case position =>
    intro hplaced g hg
    rcases isPlaced_answered.mp hplaced with ⟨hnew, -⟩ | hold
    · rw [hprepares] at hnew
      cases hnew
    · exact (h.position hold hg).imp_right WasGiven.answered

/-- What comes next lies behind the place where this queue has been, and nothing is
missing up to there. -/
theorem Account.before (h : p.Account Left l) (hplaced : p.IsPlaced) {g : Group}
    (hg : l.group = some g) {x : LogEntry}
    (hx : (l.entries.find? fun x => g.position < x.id) = some x) :
    ∀ y ∈ l.entries, y.id < x.id → p.WasGiven y.id ∨
      ∃ i, p.WasClaimed i ∧ ¬ p.WasRead i ∧ y.id < i ∧ i < x.id := by
  have hbehind : g.position < x.id := by simpa using List.find?_some hx
  intro y hy hlt
  have hle : y.id ≤ g.position := by
    by_contra hnot
    have hfirst := Log.first_le h.rising hx hy (lt_of_not_ge hnot)
    exact absurd hlt (not_lt_of_ge hfirst)
  rcases h.covers (h.position hplaced hg) y hy hle with hgave | ⟨i, hi, hnot, hlti, hlei⟩
  · exact .inl hgave
  · exact .inr ⟨i, hi, hnot, hlti, lt_of_le_of_lt hlei hbehind⟩

/-- Another entry is read, when nothing is missing in front of it. -/
theorem covers_of_read {b x : EntryId}
    (h : ∀ y ∈ l.entries, y.id ≠ x → y.id ≤ b → p.WasGiven y.id ∨
      ∃ i, p.WasClaimed i ∧ ¬ p.WasRead i ∧ y.id < i ∧ i ≤ b)
    (hread : ∀ {id}, p'.WasRead id ↔ id = x ∨ p.WasRead id)
    (hclaimed : ∀ {id}, p'.WasClaimed id ↔ p.WasClaimed id)
    (hbefore : ∀ y ∈ l.entries, y.id < x → p.WasGiven y.id ∨
      ∃ i, p.WasClaimed i ∧ ¬ p.WasRead i ∧ y.id < i ∧ i < x) : p'.Covers l b := by
  have hgives {id : EntryId} (hid : p.WasGiven id) : p'.WasGiven id :=
    hid.imp (fun hold => hread.mpr (.inr hold)) hclaimed.mpr
  have hstill {i : EntryId} (hix : i ≠ x) (hnot : ¬ p.WasRead i) : ¬ p'.WasRead i := by
    intro hnew
    exact (hread.mp hnew).elim hix hnot
  intro y hy hle
  by_cases hyx : y.id = x
  · exact .inl (.inl (hread.mpr (.inl hyx)))
  · rcases h y hy hyx hle with hgave | ⟨i, hi, hnot, hlti, hlei⟩
    · exact .inl (hgives hgave)
    · by_cases hix : i = x
      · -- what was claimed has now been read, so another one has to stand for it
        subst hix
        rcases hbefore y hy hlti with hgave | ⟨j, hj, hnotj, hltj, hjx⟩
        · exact .inl (hgives hgave)
        · exact .inr ⟨j, hclaimed.mpr hj, hstill (ne_of_lt hjx) hnotj, hltj,
            le_trans (le_of_lt hjx) hlei⟩
      · exact .inr ⟨i, hclaimed.mpr hi, hstill hix hnot, hlti, hlei⟩

/-- A read gives the first entry behind the place where this queue has been. -/
theorem Account.reads (h : p.Account Left l) {k : Nat} {c : Command} (hc : c.isRead = true)
    {o : Outcome} (hplaced : p.IsPlaced) {g : Group} (hg : l.group = some g) {x : LogEntry}
    (hx : (l.entries.find? fun x => g.position < x.id) = some x) (ho : o.readIds = [x.id]) :
    (p.answered k c o).Account Left (l.put ⟨x.id, x.id :: g.pending⟩) := by
  have hclaims : c.isClaim = false := by cases c <;> first | rfl | cases hc
  have hmem : x ∈ l.entries := List.mem_of_find?_eq_some hx
  have hread {id : EntryId} : (p.answered k c o).WasRead id ↔ id = x.id ∨ p.WasRead id := by
    rw [wasRead_answered, hc, ho, List.mem_singleton]
    simp
  have hclaimed {id : EntryId} : (p.answered k c o).WasClaimed id ↔ p.WasClaimed id := by
    rw [wasClaimed_answered, hclaims]
    simp
  have hgiven {id : EntryId} : (p.answered k c o).WasGiven id ↔ id = x.id ∨ p.WasGiven id := by
    unfold WasGiven
    rw [hread, hclaimed, or_assoc]
  have hpending {id : EntryId} : (l.put ⟨x.id, x.id :: g.pending⟩).Pending id ↔
      id = x.id ∨ l.Pending id := by
    rw [Log.pending_iff rfl, Log.pending_iff hg, List.mem_cons]
  have hbefore := h.before hplaced hg hx
  constructor
  case above => exact h.above
  case rising => exact h.rising
  case given =>
    intro id hid
    rcases hgiven.mp hid with rfl | hold
    · exact ⟨x, hmem, rfl⟩
    · exact h.given hold
  case kept =>
    intro id hid
    rcases hgiven.mp hid with rfl | hold
    · exact .inl (hpending.mpr (.inl rfl))
    · exact (h.kept hold).imp_left fun hpend => hpending.mpr (.inr hpend)
  case pending =>
    intro id hid
    rcases hpending.mp hid with rfl | hold
    · exact .inr (hread.mpr (.inl rfl))
    · exact (h.pending hold).imp_right fun hid => hread.mpr (.inr hid)
  case claimed =>
    intro id hid
    exact (h.claimed (hclaimed.mp hid)).imp_right fun hid => hread.mpr (.inr hid)
  case front =>
    intro id hid
    refine covers_of_read ?_ hread hclaimed hbefore
    intro y hy hne hle
    rcases hread.mp hid with rfl | hold
    · rcases hbefore y hy (lt_of_le_of_ne hle hne) with hgave | ⟨i, hi, hnot, hlti, hix⟩
      · exact .inl hgave
      · exact .inr ⟨i, hi, hnot, hlti, le_of_lt hix⟩
    · exact h.front hold y hy hle
  case position =>
    intro _ g' hg'
    cases hg'
    exact .inr (hgiven.mpr (.inl rfl))

/-! ## A command takes effect -/

section Serve

variable {k : Nat} {c : Command} {o : Outcome}

theorem wasRead_of_silent (h : c.isRead = true → o.readIds = []) :
    (p.answered k c o).WasRead = p.WasRead := by
  funext id
  refine propext (wasRead_answered.trans (or_iff_right ?_))
  rintro ⟨hread, hid⟩
  rw [h hread] at hid
  cases hid

theorem wasClaimed_of_silent (h : c.isClaim = true → o.claimedIds = []) :
    (p.answered k c o).WasClaimed = p.WasClaimed := by
  funext id
  refine propext (wasClaimed_answered.trans (or_iff_right ?_))
  rintro ⟨hclaim, hid⟩
  rw [h hclaim] at hid
  cases hid

/-- An answer that shows no entry, to a command that does not prepare the group. -/
theorem Account.silent (h : p.Account Left l) (hread : c.isRead = true → o.readIds = [])
    (hclaim : c.isClaim = true → o.claimedIds = [])
    (hprepares : c.isPreparing = true → o.isAnswer = false) :
    (p.answered k c o).Account Left l := by
  refine h.keeps (wasRead_of_silent hread) (wasClaimed_of_silent hclaim) (fun hid => hid) rfl
    .inl (fun hid => hid) ?_
  intro hplaced
  rcases isPlaced_answered.mp hplaced with ⟨hc, hanswer⟩ | hold
  · rw [hprepares hc] at hanswer
    cases hanswer
  · exact h.position hold

theorem Account.creates (h : p.Account Left l) (hg : l.group = none) (key node : String) :
    (p.answered k (.createGroup key node) (.answered .okay)).Account Left
      (l.put ⟨.zero, []⟩) := by
  refine h.keeps (wasRead_of_silent nofun) (wasClaimed_of_silent nofun) (fun hid => hid) rfl
    ?_ ?_ ?_
  · intro id hid
    exact absurd hid (Log.not_pending hg id)
  · intro id hid
    exact absurd ((Log.pending_iff rfl id).mp hid) List.not_mem_nil
  · intro _ g' hg'
    cases hg'
    exact .inl rfl

/-- The group is put where this queue has been, or to the beginning. -/
theorem Account.places (h : p.Account Left l) {g : Group} (hg : l.group = some g)
    {id : Option EntryId} (hid : ∀ i ∈ id, p.WasGiven i) (key node : String) :
    (p.answered k (.position key node id) (.answered .okay)).Account Left
      (l.put { g with position := id.getD .zero }) := by
  have hpending (i : EntryId) :
      (l.put { g with position := id.getD .zero }).Pending i ↔ l.Pending i := by
    rw [Log.pending_iff rfl, Log.pending_iff hg]
  refine h.keeps (wasRead_of_silent nofun) (wasClaimed_of_silent nofun) (fun hi => hi) rfl
    ?_ ?_ ?_
  · intro i hi
    exact .inl ((hpending i).mpr hi)
  · intro i hi
    exact (hpending i).mp hi
  · intro _ g' hg'
    cases hg'
    cases id with
    | none => exact .inl rfl
    | some i => exact .inr (hid i rfl)

/-- Only what a caller has received is taken off the pending entries. -/
theorem Account.acknowledges (h : p.Account Left l) {g : Group} (hg : l.group = some g)
    {id : EntryId} (hid : p.HasReceived id) (key node : String) (n : Int) (r : Receipt) :
    (p.answered k (.acknowledge key node id) (.answered (.int n))).Account Left
      { l with
        group := some { g with pending := g.pending.filter (· ≠ id) }
        removals := (id, r) :: l.removals } := by
  refine h.keeps (wasRead_of_silent nofun) (wasClaimed_of_silent nofun) (fun hi => hi) rfl
    ?_ ?_ ?_
  · -- the entry itself was received, and all others stay pending
    intro i hi
    by_cases heq : i = id
    · exact .inr (heq ▸ hid)
    · refine .inl ⟨_, rfl, List.mem_filter.mpr ⟨(Log.pending_iff hg i).mp hi, ?_⟩⟩
      simpa using heq
  · intro i hi
    have hi' := (Log.pending_iff rfl i).mp hi
    exact (Log.pending_iff hg i).mpr (List.mem_filter.mp hi').1
  · intro hplaced g' hg'
    cases hg'
    rcases isPlaced_answered.mp hplaced with ⟨hc, -⟩ | hold
    · cases hc
    · exact h.position (g := g) hold hg

/-- Whatever command takes effect, nothing that is up to the places where this queue has
been is missing afterwards. -/
theorem Account.serves (h : p.Account Left l) (hknows : p.Informed) {s : Sent} (hs : s ∈ p.sent)
    {r : Receipt} (hserves : l.Serves r s.command l' o) :
    (p.answered k s.command o).Account Left l' := by
  obtain ⟨c, event⟩ := s
  cases hserves with
  | refuses _ refusal => exact h.silent (fun _ => rfl) (fun _ => rfl) fun _ => rfl
  | creates key node hg => exact h.creates hg key node
  | places key node id hg => exact h.places hg (hknows.sent _ hs) key node
  | readsNothing key node block =>
    exact h.silent (fun _ => rfl) nofun nofun
  | reads key node block hg hx =>
    exact h.reads rfl (hknows.sent _ hs) hg hx (Outcome.readIds_reply _ _)
  | claims key node minIdle start cursor hg hids =>
    refine h.claims rfl rfl ?_
    intro id hid
    rw [Outcome.claimedIds_reply] at hid
    obtain ⟨x, hx, rfl⟩ := List.mem_map.mp hid
    obtain ⟨hmem, hchosen⟩ := List.mem_filter.mp hx
    exact ⟨(Log.pending_iff hg x.id).mpr (hids x.id (of_decide_eq_true hchosen)), x, hmem, rfl⟩
  | acknowledges key node hg hid => exact h.acknowledges hg (hknows.sent _ hs) key node 1 r
  | acknowledgesNothing key node id =>
    exact h.silent nofun nofun nofun
  | appends key payload hl =>
    have hsilent (reply : Outcome) : (p.answered k (.append key payload) reply).Account Left l :=
      h.silent nofun nofun nofun
    exact (hsilent _).append hl

end Serve

/-! ## One new queue -/

/-- Each entry up to an id is pending, or a caller has received it from this queue,
unless it lies in front of an entry that was left pending when the queue was made, and
that was given to it by a claim and by no read. -/
def Accounts (Left : EntryId → Prop) (l : Log) (p : Endpoint) (b : EntryId) : Prop :=
  ∀ x ∈ l.entries, x.id ≤ b → l.Pending x.id ∨ p.HasReceived x.id ∨
    ∃ i, Left i ∧ p.WasClaimed i ∧ ¬ p.WasRead i ∧ x.id < i ∧ i ≤ b

theorem Account.accounts (h : p.Account Left l) {b : EntryId} (hb : b = .zero ∨ p.WasGiven b) :
    p.Accounts Left l b := by
  intro x hx hle
  rcases h.covers hb x hx hle with hgiven | ⟨i, hclaimed, hnot, hbetween⟩
  · exact (h.kept hgiven).imp_right .inl
  · have hleft : Left i := (h.claimed hclaimed).resolve_right hnot
    exact .inr (.inr ⟨i, hleft, hclaimed, hnot, hbetween⟩)

/-- Where nothing was left pending, nothing is skipped. -/
theorem Accounts.of_nothing_left {b : EntryId} (h : p.Accounts Left l b) (hnone : ∀ id, ¬ Left id) :
    ∀ x ∈ l.entries, x.id ≤ b → l.Pending x.id ∨ p.HasReceived x.id := by
  intro x hx hle
  rcases h x hx hle with hpending | hreceived | ⟨i, hleft, -⟩
  · exact .inl hpending
  · exact .inr hreceived
  · exact absurd hleft (hnone i)

theorem account_fresh {q : Queue} (habove : ∀ x ∈ l.entries, .zero < x.id)
    (hrising : l.entries.Pairwise fun x y => x.id < y.id) :
    (fresh q).Account l.Pending l := by
  have hread (id : EntryId) : ¬ (fresh q).WasRead id := by
    rintro ⟨a, ha, -⟩
    cases ha
  have hclaimed (id : EntryId) : ¬ (fresh q).WasClaimed id := by
    rintro ⟨a, ha, -⟩
    cases ha
  have hgiven (id : EntryId) : ¬ (fresh q).WasGiven id := by
    rintro (hid | hid)
    · exact hread id hid
    · exact hclaimed id hid
  constructor
  case above => exact habove
  case rising => exact hrising
  case given => exact fun hid => absurd hid (hgiven _)
  case kept => exact fun hid => absurd hid (hgiven _)
  case pending => exact .inl
  case claimed => exact fun hid => absurd hid (hclaimed _)
  case front => exact fun hid => absurd hid (hread _)
  case position =>
    rintro ⟨a, ha, -⟩
    cases ha

end Endpoint

namespace World

variable {w w' : World} {n : Nat}

/-- An act of one queue, or of the service for it, or an entry that others append. -/
def Act.isOf (n : Nat) : Act → Bool
  | .start _ => false
  | .queue i _ => i == n
  | .serve i _ _ => i == n
  | .append _ _ => true

/-- The accounts of one queue are in order. -/
def Tracks (Left : EntryId → Prop) (n : Nat) (w : World) : Prop :=
  ∃ p, w.queues[n]? = some p ∧ p.Account Left w.log ∧ p.Informed

theorem Tracks.act {Left : EntryId → Prop} (h : w.Tracks Left n) {a : Act} (ha : a.isOf n = true)
    (hact : w.act a = some w') : w'.Tracks Left n := by
  obtain ⟨p, hp, haccount, hknows⟩ := h
  obtain ⟨hlt, -⟩ := List.getElem?_eq_some_iff.mp hp
  -- an act of this queue changes what it knows, one of the service changes both accounts
  cases a with
  | start s => cases ha
  | queue i a =>
    obtain rfl := beq_iff_eq.mp ha
    simp only [World.act] at hact
    obtain ⟨q, hq, hact⟩ := Option.bind_eq_some_iff.mp hact
    obtain ⟨p', hp', hact⟩ := Option.bind_eq_some_iff.mp hact
    cases hact
    rw [hp] at hq
    cases hq
    obtain ⟨hknows', hgoes⟩ := hknows.act hp'
    exact ⟨p', List.getElem?_set_self hlt, haccount.goes hgoes, hknows'⟩
  | serve i k choice =>
    obtain rfl := beq_iff_eq.mp ha
    simp only [World.act] at hact
    obtain ⟨q, hq, hact⟩ := Option.bind_eq_some_iff.mp hact
    obtain ⟨s, hs, hact⟩ := Option.bind_eq_some_iff.mp hact
    obtain ⟨⟨l, o⟩, hserve, hact⟩ := Option.bind_eq_some_iff.mp hact
    rw [hp] at hq
    cases hq
    cases hact
    have hserves := Log.serves_of_serve hserve
    exact ⟨p.answered k s.command o, List.getElem?_set_self hlt,
      haccount.serves hknows (List.mem_of_getElem? hs) hserves, hknows.serves hserves⟩
  | append id values =>
    simp only [World.act] at hact
    obtain ⟨l, hl, rfl⟩ := Option.map_eq_some_iff.mp hact
    exact ⟨p, hp, haccount.append hl, hknows⟩

theorem Tracks.run {Left : EntryId → Prop} (h : w.Tracks Left n) {as : List Act}
    (has : ∀ a ∈ as, a.isOf n = true) (hrun : w.run as = some w') : w'.Tracks Left n := by
  refine foldlM_preserves ?_ h hrun
  exact fun a ha _ _ hv hact => hv.act (has a ha) hact

/-- A queue that was just made has nothing to account for but what was left pending. -/
theorem tracks_start (habove : ∀ x ∈ w.log.entries, .zero < x.id)
    (hrising : w.log.entries.Pairwise fun x y => x.id < y.id) {s : QueueSettings}
    (hact : w.act (.start s) = some w') : w'.Tracks w.log.Pending w.queues.length := by
  simp only [World.act] at hact
  split at hact
  case h_1 q hcreate =>
    split at hact
    · cases hact
      exact ⟨.fresh q, List.getElem?_concat_length, Endpoint.account_fresh habove hrising,
        Endpoint.informed_fresh hcreate⟩
    · cases hact
  case h_2 => cases hact

/-- Wherever a queue is about to place the group, and wherever the group is once it has
done so, its accounts are in order. -/
theorem Tracks.accounts {Left : EntryId → Prop} (h : w.Tracks Left n) {p : Endpoint}
    (hp : w.queues[n]? = some p) :
    (∀ c ∈ p.sent, ∀ key node id, c.command = .position key node id →
      p.Accounts Left w.log (id.getD .zero)) ∧
    (p.IsPlaced → ∀ g, w.log.group = some g → p.Accounts Left w.log g.position) := by
  obtain ⟨p', hp', haccount, hknows⟩ := h
  rw [hp] at hp'
  cases hp'
  constructor
  · intro c hc key node id hcommand
    have hfits : p.Fits (.position key node id) := hcommand ▸ hknows.sent c hc
    apply haccount.accounts
    cases id with
    | none => exact .inl rfl
    | some i => exact .inr (hfits i rfl)
  · intro hplaced g hg
    exact haccount.accounts (haccount.position hplaced hg)

section OneQueue

variable {w₀ w₁ : World} {s : QueueSettings} {as : List Act} {p : Endpoint}

/-- A new queue of a node without anything pending skips nothing, however often it loses
its connection. -/
theorem skips_nothing_of_none_pending (habove : ∀ x ∈ w₀.log.entries, .zero < x.id)
    (hrising : w₀.log.entries.Pairwise fun x y => x.id < y.id)
    (hnone : ∀ id, ¬ w₀.log.Pending id)
    (hstart : w₀.act (.start s) = some w₁) (has : ∀ a ∈ as, a.isOf w₀.queues.length = true)
    (hrun : w₁.run as = some w) (hp : w.queues[w₀.queues.length]? = some p) :
    p.IsPlaced → ∀ g, w.log.group = some g →
      ∀ x ∈ w.log.entries, x.id ≤ g.position → w.log.Pending x.id ∨ p.HasReceived x.id := by
  intro hplaced g hg
  have haccounts := ((tracks_start habove hrising hstart).run has hrun).accounts hp
  exact (haccounts.2 hplaced g hg).of_nothing_left hnone

/-- Let a queue be made for a node, whatever the log and whatever the group of the node
look like then, and let it run, with connections lost at any point. Wherever it is about
to place the group, and wherever the group is once it has done so, each entry up to that
place is pending, or a caller has received it from this queue, with one exception: the
entries in front of one that was pending when the queue was made, and that was given to
the queue by a claim, but not yet by a read. -/
theorem skips_only_before_reclaimed (habove : ∀ x ∈ w₀.log.entries, .zero < x.id)
    (hrising : w₀.log.entries.Pairwise fun x y => x.id < y.id)
    (hstart : w₀.act (.start s) = some w₁) (has : ∀ a ∈ as, a.isOf w₀.queues.length = true)
    (hrun : w₁.run as = some w) (hp : w.queues[w₀.queues.length]? = some p) :
    (∀ c ∈ p.sent, ∀ key node id, c.command = .position key node id →
      p.Accounts w₀.log.Pending w.log (id.getD .zero)) ∧
    (p.IsPlaced → ∀ g, w.log.group = some g → p.Accounts w₀.log.Pending w.log g.position) :=
  ((tracks_start habove hrising hstart).run has hrun).accounts hp

end OneQueue

/-! ## An entry that is skipped -/

/-- The same acts at a queue that was made later. -/
def Act.behind (n : Nat) : Act → Act
  | .queue i a => .queue (n + i) a
  | .serve i k choice => .serve (n + i) k choice
  | a => a

/-- An entry that removes a record. Its text names nothing else, because all else has a
default. -/
def removalOf (time : Nat) (record : String) : LogEntry where
  id := (EntryId.of? time 0).getD .zero
  values := [Octets.ofString payloadField, Octets.ofString
    ("\x7b\"type\":\"catalogs\",\"method\":\"delete\",\"catalog\":\x7b\"id\":\"" ++ record ++
      "\"\x7d\x7d")]

/-- The entry that a new queue skips. -/
def earlierEntry : LogEntry := removalOf 1 "a"

/-- The entry that the first queue leaves pending. -/
def laterEntry : LogEntry := removalOf 2 "b"

/-- The first queue of a node reads both entries. A caller receives the earlier one
and acknowledges it; then the process ends, and the later entry stays pending. -/
def leaving : List Act :=
  [.start { nodeId := "node" }] ++ connecting ++ claiming [] ++
  [.serve 0 0 .obey, .queue 0 (.learn 0),
    .queue 0 (.move .handedOn), .queue 0 (.move .forwarderTook), .queue 0 (.move .forwarderPut),
    .queue 0 .receive, .queue 0 (.acknowledge 0), .serve 0 0 .obey] ++
  claiming [] ++ [.serve 0 0 .obey]

/-- The reader has handed its entry on, and loses its connection when it claims again. A
new attempt to connect is made. -/
def losing : List Act := [
  .queue 0 (.move .handedOn), .queue 0 (.move .readerAsked), .serve 0 0 (.find "0-0" []),
  .queue 0 (.move (.claimAnswered (.lost "connection closed"))),
  .queue 0 (.move .recoveryBegan), .queue 0 (.move (.recoveryScheduled 0)),
  .queue 0 (.move .attemptBegan)]

/-- The second queue claims the later entry before it has read anything. Then it loses its
connection, connects again and goes back to where that entry is. -/
def returning : List Act :=
  (connecting ++ claiming [laterEntry.id] ++ losing ++ connecting).map (.behind 1)

theorem reachable_of_leaving {w : World}
    (h : (initial "catalogs-cluster:catalogs" "node" [earlierEntry, laterEntry]).run leaving =
      some w) : Reachable w := by
  refine Reachable.run (.initial _ _ ?_ (by decide)) h
  intro x hx
  rcases List.mem_cons.mp hx with rfl | hx
  · decide
  · rw [List.mem_singleton.mp hx]
    decide

/-- Both queues run, one after the other. In the end the earlier entry lies in front of the
group and is not pending, and the second queue has been given the later entry only. -/
theorem run_leaving_returning :
    ∃ w₀ w₁ w p, Reachable w₀ ∧ w₀.act (.start { nodeId := "node" }) = some w₁ ∧
      (∀ a ∈ returning, a.isOf w₀.queues.length = true) ∧ w₁.run returning = some w ∧
      w.queues[w₀.queues.length]? = some p ∧
      w.log.group = some ⟨laterEntry.id, [laterEntry.id]⟩ ∧ earlierEntry ∈ w.log.entries ∧
      ¬ w.log.Pending earlierEntry.id ∧ p.queue.resume = some laterEntry.id ∧ p.IsPlaced ∧
      ¬ p.WasGiven earlierEntry.id ∧ ¬ p.HasReceived earlierEntry.id := by
  have hruns : ((initial "catalogs-cluster:catalogs" "node" [earlierEntry, laterEntry]).run
      leaving).bind (fun w₀ => (w₀.run (.start { nodeId := "node" } :: returning)).bind fun w =>
        w.queues[1]?.map fun p => (w.log.entries, w.log.group,
          decide (w₀.queues.length = 1 ∧ p.queue.resume = some laterEntry.id ∧ p.IsPlaced ∧
            ¬ p.WasGiven earlierEntry.id ∧ ¬ p.HasReceived earlierEntry.id))) =
        some ([earlierEntry, laterEntry], some ⟨laterEntry.id, [laterEntry.id]⟩, true) := by
    decide +kernel
  obtain ⟨w₀, hleaving, hruns⟩ := Option.bind_eq_some_iff.mp hruns
  obtain ⟨w, hw, hruns⟩ := Option.bind_eq_some_iff.mp hruns
  obtain ⟨w₁, hstart, hreturning⟩ := Option.bind_eq_some_iff.mp hw
  obtain ⟨p, hp, hruns⟩ := Option.map_eq_some_iff.mp hruns
  simp only [Prod.mk.injEq] at hruns
  obtain ⟨hentries, hgroup, hrest⟩ := hruns
  obtain ⟨hlength, hqueue⟩ := of_decide_eq_true hrest
  have hof : ∀ a ∈ returning, a.isOf w₀.queues.length = true := by
    rw [hlength]
    decide
  have hmem : earlierEntry ∈ w.log.entries := by
    rw [hentries]
    exact List.mem_cons_self
  have hnot : ¬ w.log.Pending earlierEntry.id := by
    rw [Log.pending_iff hgroup]
    decide
  rw [← hlength] at hp
  exact ⟨w₀, w₁, w, p, reachable_of_leaving hleaving, hstart, hof, hreturning, hp, hgroup, hmem,
    hnot, hqueue⟩

/-- The second queue has not received the earlier entry, and it is not pending: it lies in
front of an entry that was left pending and was claimed. -/
theorem earlier_skipped_before_later :
    ∃ w₀ w₁ w p, Reachable w₀ ∧ w₀.act (.start { nodeId := "node" }) = some w₁ ∧
      w₁.run returning = some w ∧ w.queues[w₀.queues.length]? = some p ∧
      earlierEntry ∈ w.log.entries ∧ ¬ w.log.Pending earlierEntry.id ∧
      ¬ p.HasReceived earlierEntry.id ∧
      ∃ i, w₀.log.Pending i ∧ p.WasClaimed i ∧ ¬ p.WasRead i ∧ earlierEntry.id < i ∧
        i ≤ laterEntry.id := by
  obtain ⟨w₀, w₁, w, p, hreached, hstart, hof, hreturning, hp, hgroup, hmem, hnot, -, hplaced, -,
    hreceived⟩ := run_leaving_returning
  have hsound := hreached.good.sound
  obtain ⟨-, haccounts⟩ :=
    skips_only_before_reclaimed hsound.above hsound.rising hstart hof hreturning hp
  have hfirst := haccounts hplaced _ hgroup earlierEntry hmem (by decide)
  exact ⟨w₀, w₁, w, p, hreached, hstart, hreturning, hp, hmem, hnot, hreceived,
    (hfirst.resolve_left hnot).resolve_left hreceived⟩

/-- It is not so that each entry with a change, up to the place from which a new queue goes
on, has been given to this queue or is pending. -/
theorem leftover_hides_backlog :
    ¬ ∀ (w₀ w₁ w : World) (s : QueueSettings) (as : List Act) (p : Endpoint) (i : EntryId)
      (g : Group), Reachable w₀ → w₀.act (.start s) = some w₁ →
      (∀ a ∈ as, a.isOf w₀.queues.length = true) → w₁.run as = some w →
      w.queues[w₀.queues.length]? = some p → p.IsPlaced → p.queue.resume = some i →
      w.log.group = some g → g.position = i →
      ∀ x ∈ w.log.entries, x.change?.isSome → x.id ≤ i → p.WasGiven x.id ∨ w.log.Pending x.id := by
  obtain ⟨w₀, w₁, w, p, hreached, hstart, hof, hreturning, hp, hgroup, hmem, hnot, hresume,
    hplaced, hgiven, -⟩ := run_leaving_returning
  intro h
  have hdecodes : earlierEntry.change?.isSome := by decide +kernel
  rcases h w₀ w₁ w _ returning p _ _ hreached hstart hof hreturning hp hplaced hresume hgroup rfl
    earlierEntry hmem hdecodes (by decide) with hgave | hpending
  · exact hgiven hgave
  · exact hnot hpending

end World
end CatalogReplica
