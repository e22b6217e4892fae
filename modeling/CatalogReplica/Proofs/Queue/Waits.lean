/-
# CatalogReplica.Proofs.Queue.Waits -- the waits that the service is told

The settings name two waits that the service has to keep: how long an event may stay
unacknowledged before it is claimed, and how long one read may wait. Both are sent as whole
milliseconds of 64 bits. A wait that needs more bits is cut short, and to read without a wait
is, for the service, to wait for ever.
-/
import CatalogReplica.Proofs.Queue.OneRecovery
import CatalogReplica.Proofs.Queue.Standing

namespace CatalogReplica

/-! ## Milliseconds -/

namespace Span

/-- The whole milliseconds of a span, however many there are. -/
def wholeMillis (d : Span) : Nat := d.totalNanos / 1000000

/-- The milliseconds of a span, rounded up. -/
def millisUp (d : Span) : Nat := (d.totalNanos + 999999) / 1000000

theorem wholeMillis_le_millisUp (d : Span) : d.wholeMillis ≤ d.millisUp := by
  apply Nat.div_le_div_right
  omega

theorem millis_eq (d : Span) : d.millis = d.wholeMillis % word := by
  have hwhole : d.wholeMillis = d.seconds * 1000 + d.nanos / 1000000 := by
    unfold wholeMillis totalNanos nanosPerSecond
    omega
  rw [hwhole]
  rfl

/-- The milliseconds in 64 bits are those of the span exactly if they fit. -/
theorem millis_eq_wholeMillis_iff (d : Span) :
    d.millis = d.wholeMillis ↔ d.wholeMillis < word := by
  rw [millis_eq]
  exact Nat.mod_eq_iff_lt (Nat.ne_of_gt zero_lt_word)

theorem one_le_millis_iff (d : Span) : 1 ≤ d.millis ↔ ¬ word ∣ d.wholeMillis := by
  rw [millis_eq, Nat.one_le_iff_ne_zero, ne_eq, Nat.dvd_iff_mod_eq_zero]

theorem millis_le_millisUp (d : Span) : d.millis ≤ d.millisUp := by
  rw [millis_eq]
  exact Nat.le_trans (Nat.mod_le _ _) d.wholeMillis_le_millisUp

end Span

/-! ## What is sent -/

/-- A claim names the milliseconds of the wait for an acknowledgement. -/
theorem Consumer.Sends.minIdle_eq {k : Consumer} {key node cursor : String} {minIdle : Nat}
    (h : k.Sends (.claim key node minIdle cursor)) : minIdle = k.ackWait.millis := by
  cases h
  rfl

/-- A read names the milliseconds of the wait for new entries. -/
theorem Consumer.Sends.block_eq {k : Consumer} {key node : String} {block : Nat}
    (h : k.Sends (.read key node block)) : block = k.blockTimeout.millis := by
  cases h
  rfl

namespace Crew

variable {c : Crew}

/-- Whatever happens to a queue, all claims and reads that it sends name the waits of its
settings in whole milliseconds of 64 bits. So a claim names the wait for an acknowledgement
exactly if its milliseconds fit, and a read never names more than the wait for new entries;
but it names at least one millisecond only if the last 64 bits of the wait say so. -/
theorem waits_sent (h : Reachable c) {a : Act} {e : Effect} (hact : c.act a = some e) :
    ∃ ackWait blockTimeout, c.settings.ackWaitSpan = .ok ackWait ∧
      c.settings.blockSpan = .ok blockTimeout ∧
      (∀ key node minIdle cursor, .claim key node minIdle cursor ∈ e.2 →
        minIdle = ackWait.wholeMillis % word ∧
        (minIdle = ackWait.wholeMillis ↔ ackWait.wholeMillis < word)) ∧
      ∀ key node block, .read key node block ∈ e.2 →
        block = blockTimeout.wholeMillis % word ∧ block ≤ max 1 blockTimeout.millisUp ∧
        (1 ≤ block ↔ ¬ word ∣ blockTimeout.wholeMillis) := by
  obtain ⟨ackWait, blockTimeout, hwait, hblock, hconsumer⟩ :=
    Consumer.eq_of_ofSettings h.consumer
  obtain ⟨-, hsends⟩ := sends_act hact
  have hackWait : c.consumer.ackWait = ackWait := congrArg Consumer.ackWait hconsumer
  have hblockTimeout : c.consumer.blockTimeout = blockTimeout :=
    congrArg Consumer.blockTimeout hconsumer
  refine ⟨ackWait, blockTimeout, hwait, hblock, ?_, ?_⟩
  · intro key node minIdle cursor hmem
    rcases hsends _ hmem with hown | ⟨-, _, _, happend⟩
    · rw [hown.minIdle_eq, hackWait]
      exact ⟨ackWait.millis_eq, ackWait.millis_eq_wholeMillis_iff⟩
    · cases happend
  · intro key node block hmem
    rcases hsends _ hmem with hown | ⟨-, _, _, happend⟩
    · rw [hown.block_eq, hblockTimeout]
      refine ⟨blockTimeout.millis_eq, ?_, blockTimeout.one_le_millis_iff⟩
      exact Nat.le_trans blockTimeout.millis_le_millisUp (Nat.le_max_right 1 _)
    · cases happend

/-- The reader has asked for an entry to claim. -/
def asking : List Act := connecting ++ [.move 0 .readerAsked]

/-- There is nothing to claim. -/
def nothingClaimed : Act :=
  .move 0 (.claimAnswered (.answered (.array [.bulk (Octets.ofString "0-0"), .array []])))

/-- A wait of one millisecond and a half is a read of one millisecond. -/
theorem short_wait_sent :
    ∃ c e, after { nodeId := "node", blockTimeout := "1500us" } asking = some c ∧
      c.act nothingClaimed = some e ∧ e.2 = [.read "catalogs-cluster:catalogs" "node" 1] ∧
      ∃ blockTimeout, c.settings.blockSpan = .ok blockTimeout ∧
        1 = blockTimeout.wholeMillis % word ∧ ¬ word ∣ blockTimeout.wholeMillis := by
  have hrun : ((after { nodeId := "node", blockTimeout := "1500us" } asking).bind
      (·.act nothingClaimed)).map Prod.snd =
        some [.read "catalogs-cluster:catalogs" "node" 1] := by
    decide +kernel
  obtain ⟨e, he, hsent⟩ := Option.map_eq_some_iff.mp hrun
  obtain ⟨c, hc, hact⟩ := Option.bind_eq_some_iff.mp he
  obtain ⟨ackWait, blockTimeout, -, hblock, -, hreads⟩ := waits_sent (reachable_of_after hc) hact
  have hmem : Command.read "catalogs-cluster:catalogs" "node" 1 ∈ e.2 := by
    rw [hsent]
    exact List.mem_singleton_self _
  obtain ⟨heq, -, hpositive⟩ := hreads _ _ _ hmem
  exact ⟨c, e, hc, hact, hsent, blockTimeout, hblock, heq, hpositive.mp (Nat.le_refl 1)⟩

/-- Events may stay unacknowledged for more milliseconds than 64 bits can count, and a read may
wait for half a millisecond. -/
def extremeWaits : QueueSettings where
  nodeId := "node"
  ackWait := "18446744073709552s"
  blockTimeout := "500us"

/-- With such settings events are claimed after 384 milliseconds, and a read waits for ever. -/
theorem extreme_waits_cut_short :
    (∃ ackWait blockTimeout, extremeWaits.ackWaitSpan = .ok ackWait ∧
      extremeWaits.blockSpan = .ok blockTimeout ∧
      ackWait.wholeMillis = 18446744073709552000 ∧ blockTimeout.millisUp = 1) ∧
    ∃ c d e, after extremeWaits connecting = some c ∧
      c.act (.move 0 .readerAsked) =
        some (d, [.claim "catalogs-cluster:catalogs" "node" 384 "0-0"]) ∧
      d.act nothingClaimed = some (e, [.read "catalogs-cluster:catalogs" "node" 0]) := by
  constructor
  · refine ⟨⟨18446744073709552, 0, by decide, by decide⟩, ⟨0, 500000, by decide, by decide⟩, ?_⟩
    exact ⟨by rfl, by rfl, by decide, by decide⟩
  · have hrun : (do
        let c ← after extremeWaits connecting
        let (d, claims) ← c.act (.move 0 .readerAsked)
        let (_, reads) ← d.act nothingClaimed
        some (claims, reads)) =
          some ([.claim "catalogs-cluster:catalogs" "node" 384 "0-0"],
            [.read "catalogs-cluster:catalogs" "node" 0]) := by
      decide +kernel
    obtain ⟨c, hc, hrun⟩ := Option.bind_eq_some_iff.mp hrun
    obtain ⟨⟨d, claims⟩, hclaims, hrun⟩ := Option.bind_eq_some_iff.mp hrun
    obtain ⟨⟨e, reads⟩, hreads, hsent⟩ := Option.bind_eq_some_iff.mp hrun
    simp only [Option.some.injEq, Prod.mk.injEq] at hsent
    obtain ⟨rfl, rfl⟩ := hsent
    exact ⟨c, d, e, hc, hclaims, hreads⟩

end Crew
end CatalogReplica
