import ExpiringCache.Proofs.Cache.Closing
import ExpiringCache.Proofs.Cache.Dossier

/-!
# Read paths

A key can be read, read with the time it has left, touched, or looked for among
the listed keys.  Whether it is live is decided in three places, of which one
asks whether the cache is closed and the others need not, since a closed cache
is empty between calls.  A read then changes what a touch changes, or only the
counters if reads leave lifetimes alone.
-/

namespace ExpiringCache

/-- The time left to an entry just renewed is its whole lifetime, if that ends in time. -/
theorem Entry.remaining_renew {K V : Type} (entry : Entry K V) (now : Instant)
    (shared : Option Duration) :
    (entry.renew now shared).remaining now =
      (entry.lifetime.resolve shared).filter fun length => (now.add? length).isSome := by
  unfold renew remaining
  cases entry.lifetime.resolve shared with
  | none => rfl
  | some length =>
      simp only [Option.bind_some, Option.filter_some]
      cases sum : now.add? length with
      | none => rfl
      | some later =>
          obtain ⟨reached, -⟩ := Instant.add?_eq_some_iff.mp sum
          refine congrArg some (Duration.ext ?_)
          change later.nanos - now.nanos = length.nanos
          omega

/-- Renewal does not look at the counters. -/
theorem Store.renew_recounted {K V : Type} (store : Store K V) (counters : Counters) (id : SlotId)
    (now : Instant) :
    { store with counters }.renew id now =
      ({ (store.renew id now).1 with counters }, (store.renew id now).2) := by
  have same : Store.entry? { store with counters } id = store.entry? id := rfl
  unfold renew
  rw [same]
  cases store.entry? id <;> rfl

namespace Cache

variable {K V H : Type} [DecidableEq K] {cache : Cache K V H} {key : K} {now : Instant}

def recounted (cache : Cache K V H) (counters : Counters) : Cache K V H :=
  { cache with store := { cache.store with counters } }

def countersAfterRead (cache : Cache K V H) (key : K) (now : Instant) : Counters :=
  if cache.store.closed then cache.store.counters
  else if (cache.store.live? key now).isSome then cache.store.counters.countHit
  else cache.store.counters.countMiss

/-! ## What a read changes -/

/-- A read that misses counts, and does nothing else. -/
theorem readAt_fst_of_missed (missed : cache.store.live? key now = none) :
    (cache.readAt key now).1 = cache.recounted (cache.countersAfterRead key now) := by
  unfold countersAfterRead
  cases closed : cache.store.closed with
  | true =>
      rw [readAt_of_closed closed]
      rfl
  | false =>
      rw [readAt_of_miss closed missed, missed]
      rfl

/-- A read that hits counts before it renews. -/
theorem readAt_fst_of_slot (opened : cache.store.closed = false) {id : SlotId}
    (slot : cache.store.liveSlot? key now = some id) {renewed : Store K V × Bool}
    (kept : { cache.store with counters := cache.store.counters.countHit }.renewOnRead id now =
      renewed) :
    (cache.readAt key now).1 = { cache with store := renewed.1 }.signal renewed.2 := by
  rw [readAt, if_neg (ne_true_of_eq_false opened), Store.lookup, slot, ← kept]

theorem countersAfterRead_of_hit (opened : cache.store.closed = false) {entry : Entry K V}
    (hit : cache.store.live? key now = some entry) :
    cache.countersAfterRead key now = cache.store.counters.countHit := by
  rw [countersAfterRead, if_neg (ne_true_of_eq_false opened), hit]
  rfl

/-- A read that leaves lifetimes alone counts, and does nothing else. -/
theorem readAt_fst_of_skips (skips : cache.store.skipRenewal = true) :
    (cache.readAt key now).1 = cache.recounted (cache.countersAfterRead key now) := by
  cases looked : cache.store.live? key now with
  | none => exact readAt_fst_of_missed looked
  | some entry =>
      cases closed : cache.store.closed with
      | true =>
          rw [readAt_of_closed closed, countersAfterRead, if_pos closed]
          rfl
      | false =>
          obtain ⟨id, slot, -⟩ := Store.liveSlot?_of_hit looked
          rw [readAt_fst_of_slot closed slot (if_pos skips), countersAfterRead_of_hit closed looked]
          exact signal_false _

/-- A read that renews does what a touch does, and counts. -/
theorem readAt_fst_of_renews (renews : cache.store.skipRenewal = false)
    (cleared : cache.store.closed = true → cache.store.live? key now = none) :
    (cache.readAt key now).1 =
      (cache.touchAt key now).1.recounted (cache.countersAfterRead key now) := by
  cases looked : cache.store.live? key now with
  | none =>
      rw [touchAt_of_miss looked]
      exact readAt_fst_of_missed looked
  | some entry =>
      have opened : cache.store.closed = false := by
        refine eq_false_of_ne_true fun closed => ?_
        cases looked.symm.trans (cleared closed)
      obtain ⟨id, slot, -⟩ := Store.liveSlot?_of_hit looked
      rw [readAt_fst_of_slot opened slot
        ((if_neg (ne_true_of_eq_false renews)).trans (Store.renew_recounted _ _ id now)),
        countersAfterRead_of_hit opened looked, touchAt, Store.touch, slot]
      rfl

/-! ## What a read returns -/

/-- On a cache that holds nothing once it is closed, a read returns the live entry. -/
theorem readAt_snd_of_cleared (valid : cache.store.Valid)
    (cleared : cache.store.closed = true → cache.store.live? key now = none) :
    (cache.readAt key now).2 = (cache.store.live? key now).map fun entry =>
      (entry.value, (cache.keptOnRead entry now).remaining now) := by
  cases closed : cache.store.closed with
  | true =>
      rw [readAt_of_closed closed, cleared closed]
      rfl
  | false =>
      rw [readAt_snd valid, dossier, Dossier.lease, if_neg (ne_true_of_eq_false closed)]
      rfl

omit [DecidableEq K] in
/-- A read that renews leaves the whole lifetime. -/
theorem remaining_keptOnRead_of_renews (renews : cache.store.skipRenewal = false)
    (entry : Entry K V) (now : Instant) :
    (cache.keptOnRead entry now).remaining now =
      (entry.lifetime.resolve cache.store.sharedLifetime).filter
        fun length => (now.add? length).isSome := by
  rw [keptOnRead, if_neg (ne_true_of_eq_false renews), entry.remaining_renew]

omit [DecidableEq K] in
theorem remaining_keptOnRead_of_skips (skips : cache.store.skipRenewal = true)
    (entry : Entry K V) (now : Instant) :
    (cache.keptOnRead entry now).remaining now = entry.deadline.map now.timeUntil := by
  rw [keptOnRead, if_pos skips]
  rfl

/-! ## Calls at a reading of the clock -/

section

variable (script : H → K → V → Script K V H) (depth : Nat) (reads : cache.clock.now = .ok now)

include reads

theorem perform_get_at (key : K) : cache.perform script depth (.get key) =
    ((cache.readAt key now).1, .ok (.value ((cache.readAt key now).2.map (·.1)))) := by
  simp only [perform, atReading, reads]

theorem perform_getLease_at (key : K) : cache.perform script depth (.getLease key) =
    ((cache.readAt key now).1, .ok (.lease (cache.readAt key now).2)) := by
  simp only [perform, atReading, reads]

theorem perform_touch_at (key : K) : cache.perform script depth (.touch key) =
    ((cache.touchAt key now).1, .ok (.flag (cache.touchAt key now).2)) := by
  simp only [perform, atReading, reads]

theorem perform_keys_at : cache.perform script depth .keys =
    (cache, .ok (.keys (cache.store.liveKeys now))) := by
  simp only [perform, atReading, reads]

end

end Cache

namespace World

variable {T K V H : Type} [DecidableEq T] [DecidableEq K] {script : H → K → V → Script K V H}
  {world next : World T K V H}

/-! ## Between calls -/

omit [DecidableEq T] in
theorem valid_turn {before after : Cache K V H} {first second : Thread K V H} {deed : Option Deed}
    (taken : Turn script before first deed after second) (valid : before.store.Valid) :
    after.store.Valid := by
  cases taken with
  | leave => exact valid
  | note => exact valid
  | write key value lifetime now => exact Cache.valid_writeAt valid key value lifetime now
  | plain clock isPlain answered =>
      exact (Cache.perform_reaches script 0 _ _).1.valid (valid.of_same rfl rfl)
  | mark => exact Cache.valid_markClosed valid
  | refuse => exact Cache.valid_markClosed valid
  | purge => exact Store.valid_purge _

/-- Every step keeps the store valid. -/
theorem valid_step (stepped : Step script world next) (valid : world.cache.store.Valid) :
    next.cache.store.Valid := by
  cases stepped with
  | begins name task idle => exact valid
  | turn who taken => exact valid_turn taken valid
  | plan now idle => exact valid.of_same rfl rfl
  | hear idle => exact valid
  | pass now idle => exact valid.sweep world.cache.handlers.check now

omit [DecidableEq T] in
/-- A closed cache is empty unless a call of `close` is halfway. -/
theorem Stage.live?_eq_none (stage : world.Stage)
    (between : ∀ who, (world.threads who).closing = false)
    (closed : world.cache.store.closed = true) (key : K) (now : Instant) :
    world.cache.store.live? key now = none := by
  cases stage with
  | opened _ unmarked _ => cases unmarked.symm.trans closed
  | closing who _ _ _ _ one => cases (between who).symm.trans ((one who).mpr rfl)
  | ended _ _ _ _ _ _ ended =>
      obtain ⟨counters, ended⟩ := ended
      rw [Store.live?, Store.stored?, ended.find?_eq]
      rfl

/--
The read paths agree.  Whenever no call of `close` is halfway, at every reading
of the clock, a key is read, read with its time left, touched and listed if and
only if it is stored and not expired, and never on a closed cache.  A read that
renews leaves what a touch leaves up to the counters and reports the whole
lifetime, if it ends at all; a read that does not renew changes the counters
alone and reports the time up to the deadline.
-/
theorem read_paths_agree (script : H → K → V → Script K V H) (clock : Clock)
    (sharedLifetime : Option Duration) (skipRenewal : Bool) (handlers : Handlers K V H)
    (run : Leads script
      { cache := Cache.create clock sharedLifetime skipRenewal handlers } world)
    (between : ∀ who, (world.threads who).closing = false) (depth : Nat)
    (reading : Clock) {now : Instant} (reads : reading.now = .ok now) (key : K) :
    let cache := { world.cache with clock := reading }
    let live := cache.store.live? key now
    let got := cache.perform script depth (.get key)
    let leased := cache.perform script depth (.getLease key)
    let touched := cache.perform script depth (.touch key)
    ((∀ entry, live = some entry ↔
          cache.store.stored? key = some entry ∧ entry.isExpired now = false) ∧
        (cache.store.closed = true → live = none) ∧
        got.2 = .ok (.value (live.map Entry.value)) ∧
        (∃ remaining : Entry K V → Option Duration,
          leased.2 = .ok (.lease (live.map fun entry => (entry.value, remaining entry)))) ∧
        touched.2 = .ok (.flag live.isSome) ∧
        ∃ keys, (cache.perform script depth .keys).2 = .ok (.keys keys) ∧
          (key ∈ keys ↔ live.isSome = true)) ∧
      (leased.1 = got.1 ∧
        (live = none →
          touched.1 = cache ∧ got.1 = cache.recounted (cache.countersAfterRead key now))) ∧
      (cache.store.skipRenewal = false →
        got.1 = touched.1.recounted (cache.countersAfterRead key now) ∧
          leased.2 = .ok (.lease (live.map fun entry =>
            (entry.value, (entry.lifetime.resolve cache.store.sharedLifetime).filter
              fun length => (now.add? length).isSome)))) ∧
      (cache.store.skipRenewal = true →
        got.1 = cache.recounted (cache.countersAfterRead key now) ∧
          leased.2 = .ok (.lease (live.map fun entry =>
            (entry.value, entry.deadline.map now.timeUntil))) ∧
          ∀ entry ∈ live, ∀ deadline ∈ entry.deadline, now ≤ deadline) := by
  intro cache live got leased touched
  have valid : cache.store.Valid :=
    (run.keeps (P := fun world => world.cache.store.Valid) (fun _ _ => valid_step)
      (Cache.valid_create clock sharedLifetime skipRenewal handlers)).of_same rfl rfl
  have cleared (closed : cache.store.closed = true) : live = none :=
    (stage_of_leads rfl run).live?_eq_none between closed key now
  have got_eq : got = _ := Cache.perform_get_at script depth reads key
  have leased_eq : leased = _ := Cache.perform_getLease_at script depth reads key
  have touched_eq : touched = _ := Cache.perform_touch_at script depth reads key
  have lease_eq : (cache.readAt key now).2 = live.map fun entry =>
      (entry.value, (cache.keptOnRead entry now).remaining now) :=
    Cache.readAt_snd_of_cleared valid cleared
  refine ⟨⟨fun _ => Store.live?_eq_some_iff, cleared, ?_,
    ⟨fun entry => (cache.keptOnRead entry now).remaining now, ?_⟩, ?_, _,
    congrArg Prod.snd (Cache.perform_keys_at script depth reads), valid.mem_liveKeys_iff⟩,
    ⟨?_, ?_⟩, ?_, ?_⟩
  · rw [got_eq, lease_eq, Option.map_map]
    rfl
  · rw [leased_eq, lease_eq]
  · rw [touched_eq, Cache.touchAt_snd valid key now]
    rfl
  · rw [leased_eq, got_eq]
  · intro missed
    rw [touched_eq, got_eq, Cache.touchAt_of_miss missed]
    exact ⟨rfl, Cache.readAt_fst_of_missed missed⟩
  · intro renews
    rw [got_eq, touched_eq, leased_eq, lease_eq]
    simp only [Cache.remaining_keptOnRead_of_renews renews, and_true]
    exact Cache.readAt_fst_of_renews renews cleared
  · intro skips
    rw [got_eq, leased_eq, lease_eq]
    simp only [Cache.remaining_keptOnRead_of_skips skips, true_and]
    refine ⟨Cache.readAt_fst_of_skips skips, ?_⟩
    intro entry here deadline due
    have fresh := (Store.live?_eq_some_iff.mp here).2
    rw [Entry.isExpired, due, Option.any_some, decide_eq_false_iff_not] at fresh
    exact Nat.not_lt.mp fresh

def lateReader : World Nat Nat Nat Unit :=
  { cache := Cache.create {} (some (.ofSeconds 3)) false {} }

/-- An entry that lasts five seconds, read after four of them. -/
theorem lateReader_agrees :
    ∃ world, Leads closeOnInsert lateReader world ∧
      let cache := { world.cache with clock := { elapsed := .ofSeconds 4 } }
      (cache.perform closeOnInsert 0 (.get 1)).1 =
          (cache.perform closeOnInsert 0 (.touch 1)).1.recounted
            { inserted := 1, retrieved := 1, hits := 1 } ∧
        (cache.perform closeOnInsert 0 (.getLease 1)).2 =
          .ok (.lease (some (10, some (.ofSeconds 5)))) := by
  have idle : lateReader.threads (.client 0) = {} := rfl
  have reads : ({ elapsed := .ofSeconds 4 } : Clock).now = .ok ⟨4000000000⟩ := by decide +kernel
  obtain ⟨late, led⟩ := leads_perform 0 idle (.set 1 10 (.lasting (.ofSeconds 5)))
  obtain ⟨-, -, renews, -⟩ := read_paths_agree closeOnInsert {} (some (.ofSeconds 3)) false {} led
    (fun _ => rfl) 0 { elapsed := .ofSeconds 4 } reads 1
  obtain ⟨same, reported⟩ := renews rfl
  refine ⟨_, led, same.trans (congrArg _ ?_), reported.trans (congrArg _ (congrArg _ ?_))⟩
  · dsimp only
    decide +kernel
  · dsimp only
    decide +kernel

end World

end ExpiringCache
