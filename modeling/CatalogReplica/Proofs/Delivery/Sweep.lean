/-
# CatalogReplica.Proofs.Delivery.Sweep -- no stale entry is missed

A *sweep* is a search together with the pending entries of its group, from which the service
answers the claim under way. Nothing but claims changes the pending entries: what was found is
not idle any more. Claims can be wasted, if they are carried out but the answer never comes, or
comes to somebody else. Everything else may happen as it likes: claims fail, connections come
and go, tasks move and callers call.

An entry that is stale at the beginning waits until it is found, and with each claim that
succeeds there are fewer claims for which it has to wait. A claim whose answer comes but cannot
be read brings it no closer, since the cursor stays. But such a claim has found an entry, and no
entry is found twice, so there are no more of these claims than pending entries.
-/
import CatalogReplica.Proofs.Delivery.Claims
import CatalogReplica.Proofs.Delivery.PendingScan
import CatalogReplica.Proofs.Delivery.Replies
import Mathlib.Data.List.Perm.Subperm

namespace CatalogReplica

/-! ## What an answer says -/

namespace Unacked

/-- A pending entry as a consumer gets it by a claim, if its fields can be read. -/
def returned? (p : Unacked) : Option Entry :=
  p.entry.fields?.map fun fields => ⟨p.id.text, fields, true⟩

/-- What a claim returns, if the entry that it has found can be read. -/
def said? : Option Unacked → Option (Option Entry)
  | none => some none
  | some p => p.returned?.map some

end Unacked

namespace PendingList

/-- The answer to a claim. -/
def answer (found : Option Unacked) (next : EntryId) : Outcome :=
  .answered (.array [.bulk (Octets.ofString next.text),
    .array (found.map (·.entry.reply)).toList, .array []])

theorem round?_answer (found : Option Unacked) (next : EntryId) :
    (answer found next).round? = (Unacked.said? found).map fun e => ⟨next.text, e⟩ := by
  cases found with
  | none =>
    simp [answer, Outcome.round?, Claimed.ofReply, Reply.text?_ofString, Claimed.entryList,
      bind, Except.bind, Except.map, Unacked.said?]
  | some p =>
    cases hfields : p.entry.fields? with
    | none =>
      simp [answer, Outcome.round?, Claimed.ofReply_one, p.entry.entry_reply, hfields, Except.map,
        Unacked.said?, Unacked.returned?]
    | some fields =>
      simp [answer, Outcome.round?, Claimed.ofReply_one, p.entry.entry_reply, hfields, Except.map,
        Unacked.said?, Unacked.returned?, Unacked.id]

end PendingList

/-! ## Sweeps -/

/-- A search, and the pending entries of its group. -/
structure Sweep where
  search : Search
  pending : PendingList
  /-- What the claims have found of which the answers came, in order. -/
  served : List (Option Unacked)
  /-- What was found by claims that were wasted. -/
  wasted : List EntryId

namespace Sweep

open EntryId (turns)
open Unacked (said?)

inductive Act where
  /-- Anything but that a claim succeeds. -/
  | other (a : Search.Act)
  /-- The service answers the claim under way, and the answer comes. -/
  | serve
  /-- The service carries out a claim, and no answer comes. -/
  | waste (c : Command)

def Act.isWaste : Act → Bool
  | .waste _ => true
  | _ => false

/-- The sweep after an act, if it is possible. -/
def act (w : Sweep) : Act → Option Sweep
  | .other a =>
    match a.round? with
    | some _ => none
    | none => (w.search.act a).map fun x => { w with search := x }
  | .serve => do
    let (found, next) ← w.search.asked.bind w.pending.find
    let x ← w.search.act (.move (.claimAnswered (PendingList.answer found next)))
    some { w with search := x, pending := w.pending.touch found, served := w.served ++ [found] }
  | .waste c => do
    let (found, _) ← w.pending.find c
    some { w with
      pending := w.pending.touch found
      wasted := w.wasted ++ (found.map Unacked.id).toList }

def run (w : Sweep) (as : List Act) : Option Sweep := as.foldlM act w

/-- For how long nobody must have touched an entry that is claimed. -/
def minIdle (w : Sweep) : Nat := w.search.queue.consumer.ackWait.millis

/-- What the claims that succeeded have returned, in order. -/
def returned (w : Sweep) : List (Option Entry) := w.served.filterMap said?

/-- The ids of all that was found. -/
def taken (w : Sweep) : List EntryId := w.served.filterMap (·.map Unacked.id) ++ w.wasted

/-- What an act can do. -/
inductive Step (w : Sweep) (a : Act) : Sweep → Prop where
  | aside {x : Search} (current : x.IsCurrent) (unmoved : w.search.Step none x) :
      Step w a { w with search := x }
  /-- The answer to a claim has come. The claim has succeeded if the answer can be read. -/
  | serves {x : Search} (current : x.IsCurrent) {start next : EntryId} {found : Option Unacked}
      (cursor : EntryId.read? w.search.queue.consumer.cursor = some start)
      (look : w.pending.scan w.minIdle start = (found, next))
      (moved : w.search.Step ((said? found).map fun e => ⟨next.text, e⟩) x) :
      Step w a
        { w with search := x, pending := w.pending.touch found, served := w.served ++ [found] }
  | wastes (waste : a.isWaste = true) {minIdle : Nat} {start next : EntryId}
      {found : Option Unacked} (look : w.pending.scan minIdle start = (found, next)) :
      Step w a
        { w with
          pending := w.pending.touch found
          wasted := w.wasted ++ (found.map Unacked.id).toList }

variable {w w' : Sweep} {a : Act} {ps : PendingList} {x : Search} {p : Unacked}

theorem step_of_act (hcurrent : w.search.IsCurrent) (h : w.act a = some w') : Step w a w' := by
  cases a with
  | other b =>
    cases hround : b.round? with
    | some r => simp [act, hround] at h
    | none =>
      simp only [act, hround] at h
      obtain ⟨x, hx, rfl⟩ := Option.map_eq_some_iff.mp h
      obtain ⟨hstep, hcurrent'⟩ := Search.step_act hx hcurrent
      exact .aside hcurrent' (hround ▸ hstep)
  | waste c =>
    obtain ⟨⟨found, next⟩, hfind, hw'⟩ := Option.bind_eq_some_iff.mp h
    cases hw'
    cases c with
    | claim key node minIdle cursor =>
      obtain ⟨start, -, hlook⟩ := Option.map_eq_some_iff.mp hfind
      exact .wastes rfl hlook
    | _ => cases hfind
  | serve =>
    obtain ⟨⟨found, next⟩, hasked, hserve⟩ := Option.bind_eq_some_iff.mp h
    obtain ⟨x, hx, hw'⟩ := Option.bind_eq_some_iff.mp hserve
    cases hw'
    obtain ⟨hstep, hcurrent'⟩ := Search.step_act hx hcurrent
    -- the claim under way is the one that the queue would send now
    have hclaiming : w.search.queue.IsClaiming := by
      obtain ⟨e, he, -⟩ := Option.map_eq_some_iff.mp hx
      exact Queue.isSome_claimAnswered_iff.mp (Option.isSome_of_eq_some he)
    rw [hcurrent hclaiming] at hasked
    obtain ⟨start, hstart, hlook⟩ := Option.map_eq_some_iff.mp hasked
    have hround : Search.Act.round? (.move (.claimAnswered (PendingList.answer found next))) =
        (PendingList.answer found next).round? := rfl
    rw [hround, PendingList.round?_answer] at hstep
    exact .serves hcurrent' hstart hlook hstep

/-- The claim under way can always be served, if it starts at an id. -/
theorem isSome_serve (hcurrent : w.search.IsCurrent) (hclaiming : w.search.queue.IsClaiming)
    {start : EntryId} (hstart : EntryId.read? w.search.queue.consumer.cursor = some start) :
    (w.act .serve).isSome = true := by
  have hlook : w.search.asked.bind w.pending.find = some (w.pending.scan w.minIdle start) := by
    rw [hcurrent hclaiming, Option.bind_some]
    exact Option.map_eq_some_iff.mpr ⟨start, hstart, rfl⟩
  have hmove (o : Outcome) : (w.search.act (.move (.claimAnswered o))).isSome = true := by
    simp only [Search.act, Option.isSome_map]
    exact Queue.isSome_claimAnswered_iff.mpr hclaiming
  obtain ⟨x, hx⟩ := Option.isSome_iff_exists.mp (hmove (PendingList.answer
    (w.pending.scan w.minIdle start).1 (w.pending.scan w.minIdle start).2))
  simp [act, hlook, hx]

/-! ## Nothing is found twice -/

/-- What is still idle was pending at the beginning and was not found yet; and nothing was
found twice. -/
structure Once (ps : PendingList) (w : Sweep) : Prop where
  ids : w.pending.ids = ps.ids
  idle : ∀ p ∈ w.pending.items, p.idle ≠ 0 → p ∈ ps.items ∧ p.id ∉ w.taken
  nodup : w.taken.Nodup
  known : ∀ id ∈ w.taken, id ∈ ps.ids

/-- What a claim finds was not found before. -/
theorem Once.of_look {minIdle : Nat} {start next : EntryId} {found : Option Unacked}
    (h : Once ps w) (hlook : w.pending.scan minIdle start = (found, next))
    (hpending : w'.pending = w.pending.touch found)
    (htaken : w'.taken.Perm ((found.map Unacked.id).toList ++ w.taken)) : Once ps w' := by
  have hfound : ∀ id ∈ (found.map Unacked.id).toList, ∃ q, found = some q ∧ q.id = id ∧
      q ∈ w.pending.items ∧ q.idle ≠ 0 := by
    intro id hid
    obtain ⟨q, rfl, rfl⟩ := Option.map_eq_some_iff.mp (Option.mem_toList.mp hid)
    obtain ⟨hq, hstale⟩ := PendingList.found_of_scan hlook
    exact ⟨q, rfl, rfl, hq, by omega⟩
  refine ⟨by rw [hpending, PendingList.ids_touch, h.ids], ?_, ?_, ?_⟩
  · intro p hp hidle
    rw [hpending] at hp
    obtain ⟨hmem, hne⟩ := PendingList.mem_of_mem_touch hp hidle
    obtain ⟨hps, hnot⟩ := h.idle p hmem hidle
    refine ⟨hps, ?_⟩
    rw [htaken.mem_iff, List.mem_append]
    rintro (hnow | hbefore)
    · obtain ⟨q, rfl, hid, hq, -⟩ := hfound p.id hnow
      exact hne (congrArg some (PendingList.eq_of_id hq hmem hid))
    · exact hnot hbefore
  · rw [htaken.nodup_iff, List.nodup_append]
    refine ⟨?_, h.nodup, ?_⟩
    · cases found <;> simp
    · rintro id hnow _ hbefore rfl
      obtain ⟨q, -, rfl, hq, hidle⟩ := hfound id hnow
      exact (h.idle q hq hidle).2 hbefore
  · intro id hid
    rw [htaken.mem_iff, List.mem_append] at hid
    rcases hid with hnow | hbefore
    · obtain ⟨q, -, rfl, hq, -⟩ := hfound id hnow
      exact h.ids ▸ PendingList.id_mem_ids hq
    · exact h.known id hbefore

theorem Once.step (h : Once ps w) (hstep : Step w a w') : Once ps w' := by
  cases hstep with
  | aside _ _ => exact ⟨h.ids, h.idle, h.nodup, h.known⟩
  | @serves _ _ _ _ found _ hlook _ =>
    refine h.of_look hlook rfl ?_
    have hlast : [found].filterMap (·.map Unacked.id) = (found.map Unacked.id).toList := by
      cases found <;> rfl
    simp only [taken, List.filterMap_append, hlast]
    rw [← List.append_assoc]
    exact List.perm_append_comm.append_right _
  | wastes _ hlook =>
    refine h.of_look hlook rfl ?_
    simp only [taken]
    rw [← List.append_assoc]
    exact List.perm_append_comm

/-- The answers that came but could not be read are no more than the pending entries. -/
theorem Once.length_served_le (h : Once ps w) :
    w.served.length ≤ w.returned.length + ps.items.length := by
  have hread : w.returned.length = w.served.countP fun found => (said? found).isSome :=
    List.length_filterMap_eq_countP
  have hall : w.served.length = (w.served.countP fun found => (said? found).isSome) +
      w.served.countP fun found => ¬ (said? found).isSome = true :=
    List.length_eq_countP_add_countP _
  have hunread : (w.served.countP fun found => ¬ (said? found).isSome = true) ≤
      w.served.countP fun found => (found.map Unacked.id).isSome := by
    refine List.countP_mono_left ?_
    intro found _ hunread
    cases found with
    | none => simp [said?] at hunread
    | some p => rfl
  have hids : (w.served.filterMap (·.map Unacked.id)).length =
      w.served.countP fun found => (found.map Unacked.id).isSome :=
    List.length_filterMap_eq_countP
  have hknown : w.taken.length ≤ ps.ids.length :=
    (List.subperm_of_subset h.nodup h.known).length_le
  have htaken : w.taken.length = (w.served.filterMap (·.map Unacked.id)).length +
      w.wasted.length := List.length_append
  have hlength : ps.ids.length = ps.items.length := List.length_map _
  omega

/-! ## What becomes of a stale entry -/

/-- What becomes of an entry that is stale at the beginning. -/
inductive Fate (ps : PendingList) (p : Unacked) (w : Sweep) : Prop where
  /-- It will be looked at soon. -/
  | waits (here : p ∈ w.pending.items)
      (soon : ∀ start, EntryId.read? w.search.queue.consumer.cursor = some start →
        w.returned.length + turns ps.ids start p.id ≤ ps.items.length + 1)
  | found (early : some p ∈ w.served.take (2 * (ps.items.length + 1)))
      (read : ∀ e, p.returned? = some e → some e ∈ w.returned.take (ps.items.length + 1))
  | wasted (noted : p.id ∈ w.wasted)

theorem Fate.start (h : p ∈ ps.items) : Fate ps p ⟨x, ps, [], []⟩ := by
  refine .waits h ?_
  intro start _
  have hlength : ps.ids.length = ps.items.length := List.length_map _
  have hturns : turns ps.ids start p.id ≤ ps.ids.length + 1 := EntryId.turns_le _ _ _
  show 0 + _ ≤ _
  omega

theorem mem_take_concat {α : Type} {l : List α} {n : Nat} (h : l.length < n) (y : α) :
    y ∈ (l ++ [y]).take n := by
  rw [List.take_of_length_le (by rw [List.length_append, List.length_singleton]; exact h)]
  exact List.mem_append_right l List.mem_cons_self

theorem mem_take_append {α : Type} {l m : List α} {n : Nat} {y : α} (h : y ∈ l.take n) :
    y ∈ (l ++ m).take n := by
  rw [List.take_append]
  exact List.mem_append_left _ h

theorem returned_serves (x : Search) (l : PendingList) (found : Option Unacked) :
    returned ⟨x, l, w.served ++ [found], w.wasted⟩ = w.returned ++ (said? found).toList := by
  rw [returned, returned, List.filterMap_append]
  cases hsaid : said? found <;> simp [hsaid]

theorem Fate.step (h : Fate ps p w) (honce : Once ps w) (hstale : w.minIdle < p.idle)
    (hstep : Step w a w') : Fate ps p w' := by
  cases hstep with
  | aside _ hunmoved =>
    cases h with
    | waits here soon => exact .waits here (by rwa [hunmoved.consumer])
    | found early read => exact .found early read
    | wasted noted => exact .wasted noted
  | @wastes _ _ _ _ found hlook =>
    cases h with
    | found early read => exact .found early read
    | wasted noted => exact .wasted (List.mem_append_left _ noted)
    | waits here soon =>
      by_cases hfound : found = some p
      · subst hfound
        exact .wasted (List.mem_append_right _ List.mem_cons_self)
      · exact .waits (PendingList.mem_touch here hfound) soon
  | @serves _ _ start next found hcursor hlook hmoved =>
    cases h with
    | found early read =>
      refine .found (mem_take_append early) ?_
      intro e he
      rw [returned_serves]
      exact mem_take_append (read e he)
    | wasted noted => exact .wasted noted
    | waits here soon =>
      have hsoon := soon start hcursor
      by_cases hfound : found = some p
      · -- this is the claim that finds it
        subst hfound
        have hpos : 0 < turns ps.ids start p.id :=
          EntryId.turns_pos (honce.ids ▸ PendingList.id_mem_ids here)
        have hserved := honce.length_served_le
        refine .found (mem_take_concat (by omega) _) ?_
        intro e he
        have hsaid : said? (some p) = some (some e) := by simp [said?, he]
        rw [returned_serves, hsaid]
        exact mem_take_concat (by omega) _
      · have hcloser := (PendingList.found_or_closer hlook here hstale).resolve_left hfound
        rw [honce.ids] at hcloser
        refine .waits (PendingList.mem_touch here hfound) ?_
        intro start' hstart'
        rw [returned_serves]
        cases hsaid : said? found with
        | none =>
          -- the answer cannot be read, and the cursor stays
          rw [hsaid] at hmoved
          rw [hmoved.consumer] at hstart'
          simpa using soon start' hstart'
        | some e =>
          rw [hsaid] at hmoved
          rw [hmoved.cursor, EntryId.read?_text, Option.some.injEq] at hstart'
          subst hstart'
          rw [Option.toList_some, List.length_append, List.length_singleton]
          omega

/-! ## What holds of every run -/

/-- The invariant of a run that has begun with a search and pending entries. -/
structure Kept (x : Search) (ps : PendingList) (w : Sweep) : Prop where
  current : w.search.IsCurrent
  wait : w.search.queue.consumer.ackWait = x.queue.consumer.ackWait
  rounds : w.search.rounds.map Round.entry = x.rounds.map Round.entry ++ w.returned
  /-- Once a claim has succeeded, the cursor is an id. -/
  readable : w.returned ≠ [] → ∃ start, EntryId.read? w.search.queue.consumer.cursor = some start
  once : Once ps w
  /-- Nothing but what was stale is found. -/
  stale : ∀ p, some p ∈ w.served → p ∈ ps.items ∧ x.queue.consumer.ackWait.millis < p.idle
  fate : ∀ p ∈ ps.items, x.queue.consumer.ackWait.millis < p.idle → Fate ps p w

theorem Kept.minIdle (h : Kept x ps w) : w.minIdle = x.queue.consumer.ackWait.millis :=
  congrArg Span.millis h.wait

theorem kept_start (hcurrent : x.IsCurrent) : Kept x ps ⟨x, ps, [], []⟩ where
  current := hcurrent
  wait := rfl
  rounds := (List.append_nil _).symm
  readable := fun h => absurd rfl h
  once := ⟨rfl, fun _ hp _ => ⟨hp, List.not_mem_nil⟩, List.nodup_nil, by simp [taken]⟩
  stale := fun _ hp => absurd hp List.not_mem_nil
  fate := fun _ hp _ => .start hp

theorem Kept.step (h : Kept x ps w) (hstep : Step w a w') : Kept x ps w' := by
  have hfate : ∀ p ∈ ps.items, x.queue.consumer.ackWait.millis < p.idle → Fate ps p w' := by
    intro p hp hstale
    exact (h.fate p hp hstale).step h.once (h.minIdle ▸ hstale) hstep
  have honce : Once ps w' := h.once.step hstep
  cases hstep with
  | aside hcurrent hunmoved =>
    refine ⟨hcurrent, ?_, ?_, ?_, honce, h.stale, hfate⟩
    · rw [hunmoved.consumer]
      exact h.wait
    · rw [hunmoved.rounds, Option.toList_none, List.append_nil]
      exact h.rounds
    · rw [hunmoved.consumer]
      exact h.readable
  | wastes _ _ => exact ⟨h.current, h.wait, h.rounds, h.readable, honce, h.stale, hfate⟩
  | @serves _ hcurrent start next found hcursor hlook hmoved =>
    refine ⟨hcurrent, ?_, ?_, ?_, honce, ?_, hfate⟩
    · rw [hmoved.consumer]
      exact h.wait
    · rw [hmoved.rounds, List.map_append, h.rounds, List.append_assoc, returned_serves]
      cases said? found <;> rfl
    · rw [returned_serves]
      cases hsaid : said? found with
      | none =>
        rw [hsaid] at hmoved
        rw [hmoved.consumer]
        simpa using h.readable
      | some e =>
        intro _
        rw [hsaid] at hmoved
        rw [hmoved.cursor]
        exact ⟨next, EntryId.read?_text next⟩
    · intro p hp
      rcases List.mem_append.mp hp with hbefore | hlast
      · exact h.stale p hbefore
      · cases List.mem_singleton.mp hlast
        obtain ⟨hmem, hstale⟩ := PendingList.found_of_scan hlook
        exact ⟨(h.once.idle p hmem (by omega)).1, h.minIdle ▸ hstale⟩

theorem Kept.run (hcurrent : x.IsCurrent) {as : List Act}
    (hrun : run ⟨x, ps, [], []⟩ as = some w) : Kept x ps w :=
  foldlM_preserves (fun _ _ _ _ hv hact => hv.step (step_of_act hv.current hact))
    (kept_start hcurrent) hrun

/-- After one claim that has succeeded for each pending entry, and one more, no stale entry
still waits. -/
theorem Kept.found_or_wasted (h : Kept x ps w) (hp : p ∈ ps.items)
    (hstale : x.queue.consumer.ackWait.millis < p.idle)
    (henough : ps.items.length + 1 ≤ w.returned.length) :
    (some p ∈ w.served.take (2 * (ps.items.length + 1)) ∧
      ∀ e, p.returned? = some e → some e ∈ w.returned.take (ps.items.length + 1)) ∨
      p.id ∈ w.wasted := by
  cases h.fate p hp hstale with
  | found early read => exact .inl ⟨early, read⟩
  | wasted noted => exact .inr noted
  | waits here soon =>
    have hsome : w.returned ≠ [] := List.ne_nil_of_length_pos (by omega)
    obtain ⟨start, hstart⟩ := h.readable hsome
    have hpos : 0 < turns ps.ids start p.id := EntryId.turns_pos (PendingList.id_mem_ids hp)
    have hsoon := soon start hstart
    omega

theorem wasted_run {as : List Act} (hwaste : ∀ a ∈ as, a.isWaste = false)
    (hcurrent : x.IsCurrent) (hrun : run ⟨x, ps, [], []⟩ as = some w) : w.wasted = [] := by
  have hboth : w.search.IsCurrent ∧ w.wasted = [] := by
    refine foldlM_preserves (P := fun v => v.search.IsCurrent ∧ v.wasted = []) ?_ ⟨hcurrent, rfl⟩
      hrun
    rintro a ha v v' ⟨hv, hnone⟩ hact
    cases step_of_act hv hact with
    | aside hcurrent _ => exact ⟨hcurrent, hnone⟩
    | serves hcurrent _ _ _ => exact ⟨hcurrent, hnone⟩
    | wastes waste _ => cases (hwaste a ha).symm.trans waste
  exact hboth.2

/-- A claim is sent with the time of the settings, and starts where the last claim that
succeeded has said, whatever has happened since; at the beginning if none has. A claim that
fails moves nothing.

So no stale entry is missed, wherever the cursor is. As soon as for each pending entry, and one
more, a claim has succeeded, each entry that was stale has been found and was returned if its
fields can be read; and this is so at the latest when twice as many answers have come, should
not all of them be readable. Nothing else is found, and nothing twice. The exception are
entries that were found by claims that were wasted, and without wasted claims there are none.
A claim that is under way can be served at any time. -/
theorem no_stale_entry_missed {s : QueueSettings} {x : Search} (h : Search.Reachable s x) :
    (∀ (m : Queue.Move) (e : Queue.Effect) (c : Command), x.queue.move m = some e → c ∈ e.2 →
      c.isClaim = true → ∃ wait, s.ackWaitSpan = .ok wait ∧
        c = .claim s.streamKey s.nodeId wait.millis x.start) ∧
    (∀ (o : Outcome) (f : Failure) (e : Queue.Effect), x.queue.consumer.claimed o = .error f →
      x.queue.move (.claimAnswered o) = some e → e.1.consumer = x.queue.consumer) ∧
    ∀ (ps : PendingList) (as : List Act) (w : Sweep), run ⟨x, ps, [], []⟩ as = some w →
      w.search.rounds.map Round.entry = x.rounds.map Round.entry ++ w.returned ∧
      (∀ p ∈ ps.items, x.queue.consumer.ackWait.millis < p.idle →
        ps.items.length + 1 ≤ w.returned.length ∨
          2 * (ps.items.length + 1) ≤ w.served.length →
        (some p ∈ w.served.take (2 * (ps.items.length + 1)) ∧
          ∀ e, p.returned? = some e → some e ∈ w.returned.take (ps.items.length + 1)) ∨
          p.id ∈ w.wasted) ∧
      (∀ p, some p ∈ w.served → p ∈ ps.items ∧ x.queue.consumer.ackWait.millis < p.idle) ∧
      w.taken.Nodup ∧
      ((∀ a ∈ as, a.isWaste = false) → w.wasted = []) ∧
      (∀ start, w.search.queue.IsClaiming →
        EntryId.read? w.search.queue.consumer.cursor = some start →
          (w.act .serve).isSome = true) := by
  have hsound : Search.Sound s x := h.sound
  refine ⟨?_, fun _ _ _ => Queue.consumer_of_claim_failed, ?_⟩
  · intro m e c hmove hc hclaim
    refine ⟨x.queue.consumer.ackWait, hsound.wait, ?_⟩
    rw [Search.claim_of_move hmove hc hclaim, Consumer.claimCommand, hsound.key, hsound.node,
      hsound.cursor]
  · intro ps as w hrun
    have hkept : Kept x ps w := .run hsound.current hrun
    refine ⟨hkept.rounds, ?_, hkept.stale, hkept.once.nodup,
      fun hwaste => wasted_run hwaste hsound.current hrun,
      fun _ hclaiming hstart => isSome_serve hkept.current hclaiming hstart⟩
    intro p hp hstale henough
    have hserved := hkept.once.length_served_le
    exact hkept.found_or_wasted hp hstale (by omega)

/-- A pending entry whose only field is a note. -/
def noted (id : EntryId) (idle : Nat) : Unacked :=
  ⟨⟨id, [Octets.ofString "note", Octets.ofString "x"]⟩, idle⟩

/-- Twelve entries, of which the last but one is stale. -/
def twelve : PendingList where
  items := (List.finRange 12).map fun i : Fin 12 =>
    noted ⟨i, 0, i.isLt.trans (by decide), zero_lt_word⟩ (if i = 10 then 30001 else 7)
  rising := by decide +kernel

/-- A reader whose first claim has found nothing, and has ended before the last of the
twelve. -/
def beforeLast : List Search.Act :=
  [.move .opened, .move .opened, .move (.prepared (.answered .okay)),
    .move (.prepared (.answered .okay)), .move .readerAsked,
    .move (.claimAnswered (PendingList.answer none ⟨11, 0, by decide, by decide⟩)),
    .move (.readAnswered (.answered .nil))]

/-- A claim that finds nothing, and nothing is read. -/
def vain : List Act :=
  [.other (.move .readerAsked), .serve, .other (.move (.readAnswered (.answered .nil)))]

/-- One claim goes to the end, one passes over ten entries from the beginning, and the next
one finds the stale entry. -/
def around : List Act :=
  vain ++ vain ++ [.other (.move .readerAsked), .serve] ++ (List.replicate 10 vain).flatten

/-- The stale entry is returned, although the cursor was behind it, and ten others before it. -/
theorem last_but_one_returned :
    ∃ x w e, Search.after { nodeId := "node" } beforeLast = some x ∧ x.start = "11-0" ∧
      run ⟨x, twelve, [], []⟩ around = some w ∧ e.id = "10-0" ∧ some e ∈ w.returned.take 13 := by
  let p := noted ⟨10, 0, by decide, by decide⟩ 30001
  have hp : p ∈ twelve.items := by decide +kernel
  have hrun : (Search.after { nodeId := "node" } beforeLast).bind (fun x =>
      (run ⟨x, twelve, [], []⟩ around).map fun w => (x.start,
        x.queue.consumer.ackWait.millis, w.returned.length, w.wasted)) =
      some ("11-0", 30000, 13, []) := by
    decide +kernel
  have hread : p.returned?.map Entry.id = some "10-0" := by decide +kernel
  obtain ⟨x, hx, hrun⟩ := Option.bind_eq_some_iff.mp hrun
  obtain ⟨w, hw, hparts⟩ := Option.map_eq_some_iff.mp hrun
  simp only [Prod.mk.injEq] at hparts
  obtain ⟨hstart, hwait, hlength, hwasted⟩ := hparts
  obtain ⟨e, he, hid⟩ := Option.map_eq_some_iff.mp hread
  obtain ⟨-, hfound, -⟩ :=
    (no_stale_entry_missed (Search.reachable_of_after hx)).2.2 twelve around w hw
  have hstale : x.queue.consumer.ackWait.millis < p.idle := by
    rw [hwait]
    decide
  rcases hfound p hp hstale (.inl hlength.ge) with ⟨-, hreturned⟩ | hlost
  · exact ⟨x, w, e, hx, hstart, hw, hid, hreturned e he⟩
  · rw [hwasted] at hlost
    cases hlost

end Sweep
end CatalogReplica
