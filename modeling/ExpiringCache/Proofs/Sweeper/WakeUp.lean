import Mathlib.Logic.Relation
import ExpiringCache.Proofs.Cache.Invariant
import ExpiringCache.Proofs.Cache.Outcome
import ExpiringCache.Sweeper

/-!
# Wake-ups

The sweeper shares the cache with any number of clients, and their steps come
in any order.  A plan looks only at the root of the queue, and a client leaves a
wake-up only for the deadline of its own entry.  Still no deadline is slept
past: a sweeper that is parked with no wake-up pending is in time for each.
-/

namespace ExpiringCache

namespace Cache

variable {K V H : Type} [DecidableEq K] {before after : Cache K V H}

/--
A change of the cache that the sweeper may overlook: unless it leaves a wake-up,
every entry was there before or is due no earlier than the sweeper wakes.
-/
structure Overlooked (before after : Cache K V H) : Prop where
  nextWake : after.store.nextWake = before.store.nextWake
  wake : after.wake = false → before.wake = false
  stored : after.wake = false → ∀ key entry, after.store.stored? key = some entry →
    before.store.stored? key = some entry ∨ before.store.sleepsPast entry.deadline = false

namespace Overlooked

theorem of_fewer (nextWake : after.store.nextWake = before.store.nextWake)
    (wake : after.wake = false → before.wake = false)
    (fewer : ∀ key entry, after.store.stored? key = some entry →
      before.store.stored? key = some entry) : Overlooked before after where
  nextWake := nextWake
  wake := wake
  stored _ key entry stored := .inl (fewer key entry stored)

theorem of_same (store : after.store = before.store) (wake : after.wake = before.wake) :
    Overlooked before after :=
  .of_fewer (by rw [store]) (fun still => wake ▸ still) fun _ _ stored => store ▸ stored

/-- A change of one entry may be overlooked if it leaves a wake-up for an early deadline. -/
theorem of_entry {store : Store K V} {wake : Bool} {key : K} {left : Entry K V}
    (nextWake : store.nextWake = before.store.nextWake)
    (stored : ∀ name, store.stored? name =
      if key = name then some left else before.store.stored? name)
    (quiet : wake = false → before.store.stored? key = some left ∨
      before.store.sleepsPast left.deadline = false) :
    Overlooked before ({ before with store }.signal wake) where
  nextWake := nextWake
  wake silent := (Bool.or_eq_false_iff.mp silent).1
  stored silent name entry here := by
    have shown := (stored name).symm.trans here
    split at shown
    · rename_i same
      obtain rfl := Option.some.inj shown
      exact same ▸ quiet (Bool.or_eq_false_iff.mp silent).2
    · exact .inl shown

theorem writeAt (valid : before.store.Valid) (key : K) (value : V) (lifetime : Lifetime)
    (now : Instant) : Overlooked before (before.writeAt key value lifetime now).1 := by
  unfold Cache.writeAt
  split
  · exact .of_same rfl rfl
  · obtain ⟨index, schedule, frame⟩ := before.store.write_frame key value lifetime now
    refine .of_entry (by rw [frame]) (valid.stored?_write key value lifetime now) ?_
    intro silent
    rw [valid.write_wake] at silent
    exact .inr silent

theorem readAt (valid : before.store.Valid) (key : K) (now : Instant) :
    Overlooked before (before.readAt key now).1 := by
  cases closed : before.store.closed with
  | true =>
      rw [readAt_of_closed closed]
      exact .of_same rfl rfl
  | false =>
      cases looked : before.store.live? key now with
      | none =>
          rw [readAt_of_miss closed looked]
          exact .of_fewer rfl id fun _ _ stored => stored
      | some entry =>
          obtain ⟨schedule, read, shown⟩ := readAt_of_hit valid closed looked
          rw [read]
          refine .of_entry rfl shown ?_
          intro silent
          unfold keptOnRead
          cases skip : before.store.skipRenewal with
          | true => exact .inl (Store.live?_eq_some_iff.mp looked).1
          | false =>
              rw [skip, Bool.not_false, Bool.true_and] at silent
              exact .inr silent

theorem touchAt (valid : before.store.Valid) (key : K) (now : Instant) :
    Overlooked before (before.touchAt key now).1 := by
  cases looked : before.store.live? key now with
  | none =>
      rw [touchAt_of_miss looked]
      exact .of_same rfl rfl
  | some entry =>
      obtain ⟨schedule, touched, shown⟩ := touchAt_of_hit valid looked
      rw [touched]
      exact .of_entry rfl shown fun silent => .inr silent

theorem remove (valid : before.store.Valid) (key : K) :
    Overlooked before (before.remove key).1 := by
  refine .of_fewer ?_ id ?_
  · obtain ⟨index, schedule, frame⟩ := before.store.remove_frame key
    change (before.store.remove key).1.nextWake = before.store.nextWake
    rw [frame]
  · intro name entry stored
    have shown := (valid.stored?_remove key name).symm.trans stored
    split at shown
    · cases shown
    · exact shown

/-- The sweeper may overlook any step of a client. -/
theorem enter (valid : before.store.Valid) (entered : Section K V H) :
    Overlooked before (before.enter entered) := by
  cases entered with
  | write key value lifetime now => exact writeAt valid key value lifetime now
  | read key now => exact readAt valid key now
  | touch key now => exact touchAt valid key now
  | remove key => exact remove valid key
  | setSharedLifetime duration =>
      refine .of_fewer rfl ?_ fun _ _ stored => stored
      exact fun silent => (Bool.or_eq_false_iff.mp silent).1
  | setSkipRenewal skip => exact .of_fewer rfl id fun _ _ stored => stored
  | install handlers => exact .of_same rfl rfl
  | purge =>
      refine .of_fewer rfl id ?_
      intro key entry stored
      rw [Cache.enter, Cache.purge, Store.stored?_purge] at stored
      cases stored
  | markClosed =>
      change Overlooked before before.markClosed.1
      unfold Cache.markClosed
      split
      · exact .of_same rfl rfl
      · exact .of_fewer rfl id fun _ _ stored => stored
  | note events => exact .of_same rfl rfl
  | moveClock clock => exact .of_same rfl rfl

end Overlooked

end Cache

namespace Sweeper

/--
A sleep since `reading` is in time for a deadline if it ends no later, except
that no sleep is shorter than `minSleep`.
-/
def InTime (reading : Instant) (sleep : Duration) (due : Instant) : Prop :=
  reading.nanos + sleep.nanos ≤ max due.nanos (reading.nanos + minSleep.nanos)

section

variable {K V : Type} [DecidableEq K] {store : Store K V}

def InTimeForAll (store : Store K V) (reading : Instant) (sleep : Duration) : Prop :=
  ∀ key entry, store.stored? key = some entry →
    ∀ due, entry.deadline = some due → InTime reading sleep due

omit [DecidableEq K] in
theorem sleepTime_le {due : Instant} (first : store.earliestDeadline? = some due)
    (now : Instant) :
    (store.sleepTime now).nanos ≤ max (due.nanos - now.nanos) minSleep.nanos := by
  rw [Store.sleepTime, first]
  simp only [Instant.timeUntil, Duration.nanos_min, Duration.nanos_max]
  cases store.sharedLifetime with
  | none => exact Nat.min_le_left _ _
  | some shared =>
      simp only [Duration.lt_iff]
      split
      · omega
      · exact Nat.min_le_left _ _

/-- The plan for the root of the queue is in time for every entry. -/
theorem inTimeForAll_sleepTime (valid : store.Valid) (now : Instant) :
    InTimeForAll store now (store.sleepTime now) := by
  intro key entry stored due dated
  cases first : store.earliestDeadline? with
  | none =>
      rw [valid.deadline_of_earliest_none first stored] at dated
      cases dated
  | some earliest =>
      have rootFirst := valid.earliest_le first stored dated
      have bound := sleepTime_le first now
      rw [Instant.le_iff] at rootFirst
      unfold InTime
      omega

omit [DecidableEq K] in
/-- An unrepresentable end of the sleep calls for a wake-up at every deadline. -/
theorem inTime_of_not_sleepsPast {reading due : Instant} {sleep : Duration}
    (planned : store.nextWake = reading.add? sleep)
    (kept : store.sleepsPast (some due) = false) : InTime reading sleep due := by
  unfold Store.sleepsPast at kept
  rw [planned, Option.any_some] at kept
  cases ends : reading.add? sleep with
  | none =>
      rw [ends] at kept
      cases kept
  | some wake =>
      have reached := (Instant.add?_eq_some_iff.mp ends).1
      rw [ends, Option.all_some, decide_eq_false_iff_not, Instant.lt_iff] at kept
      unfold InTime
      omega

end

variable {K V H : Type} [DecidableEq K]

/--
One step of a cache and its sweeper.  A change of the shared lifetime leaves its
wake-up after the section, so its two halves, `retune` and `signal`, are steps of
their own.  The reading of a plan or a pass may be any instant, and a timer may
go off at any time, also while a wake-up is pending.
-/
inductive Step : Cache K V H × Phase → Cache K V H × Phase → Prop where
  | client (cache : Cache K V H) (phase : Phase) (entered : Section K V H) :
      Step (cache, phase) (cache.enter entered, phase)
  | retune (cache : Cache K V H) (phase : Phase) (sharedLifetime : Option Duration) :
      Step (cache, phase) ({ cache with store := { cache.store with sharedLifetime } }, phase)
  | signal (cache : Cache K V H) (phase : Phase) : Step (cache, phase) (cache.signal true, phase)
  | plan (cache : Cache K V H) (now : Instant) :
      Step (cache, .planning) ((cache.planSleepAt now).1, .parked now (cache.planSleepAt now).2)
  | hear (cache : Cache K V H) (reading : Instant) (sleep : Duration)
      (pending : cache.wake = true) :
      Step (cache, .parked reading sleep) (cache.takeWake.1, .planning)
  | ring (cache : Cache K V H) (reading : Instant) (sleep : Duration) (now : Instant) :
      Step (cache, .parked reading sleep) ((cache.sweepAt now).1, .planning)
  | stop (cache : Cache K V H) (phase : Phase) : Step (cache, phase) (cache, .stopped)

/-- The invariant of a cache and its sweeper. -/
structure Watchful (state : Cache K V H × Phase) : Prop where
  valid : state.1.store.Valid
  planned : ∀ reading sleep, state.2 = .parked reading sleep →
    state.1.store.nextWake = reading.add? sleep
  awake : ∀ reading sleep, state.2 = .parked reading sleep → state.1.wake = false →
    InTimeForAll state.1.store reading sleep

namespace Watchful

theorem of_unparked {cache : Cache K V H} {phase : Phase} (valid : cache.store.Valid)
    (unparked : ∀ reading sleep, phase ≠ .parked reading sleep) : Watchful (cache, phase) where
  valid := valid
  planned reading sleep parked := absurd parked (unparked reading sleep)
  awake reading sleep parked := absurd parked (unparked reading sleep)

theorem overlook {before after : Cache K V H} {phase : Phase}
    (watchful : Watchful (before, phase)) (valid : after.store.Valid)
    (overlooked : before.Overlooked after) : Watchful (after, phase) where
  valid := valid
  planned reading sleep parked :=
    overlooked.nextWake.trans (watchful.planned reading sleep parked)
  awake reading sleep parked silent := by
    intro key entry stored due dated
    have planned := watchful.planned reading sleep parked
    rcases overlooked.stored silent key entry stored with old | late
    · exact watchful.awake reading sleep parked (overlooked.wake silent) key entry old due dated
    · rw [dated] at late
      exact inTime_of_not_sleepsPast planned late

theorem step {state next : Cache K V H × Phase} (watchful : Watchful state)
    (moved : Step state next) : Watchful next := by
  have valid := watchful.valid
  cases moved with
  | client cache phase entered =>
      exact watchful.overlook (Cache.valid_enter valid entered) (.enter valid entered)
  | retune cache phase shared =>
      exact watchful.overlook (valid.of_same rfl rfl) (.of_fewer rfl id fun _ _ stored => stored)
  | signal cache phase =>
      refine watchful.overlook valid (.of_fewer rfl ?_ fun _ _ stored => stored)
      exact fun silent => (Bool.or_eq_false_iff.mp silent).1
  | plan cache now =>
      refine ⟨valid.of_same rfl rfl, ?_, ?_⟩
      · rintro _ _ ⟨⟩
        rfl
      · rintro _ _ ⟨⟩ -
        exact inTimeForAll_sleepTime valid now
  | hear cache reading sleep pending => exact .of_unparked valid (by rintro _ _ ⟨⟩)
  | ring cache reading sleep now =>
      exact .of_unparked (Cache.valid_after valid (.sweep now)) (by rintro _ _ ⟨⟩)
  | stop cache phase => exact .of_unparked valid (by rintro _ _ ⟨⟩)

theorem run {state reached : Cache K V H × Phase} (watchful : Watchful state)
    (steps : Relation.ReflTransGen Step state reached) : Watchful reached := by
  induction steps with
  | refl => exact watchful
  | tail _ moved ih => exact ih.step moved

end Watchful

/-! ## The loop takes these steps -/

theorem steps_of_reaches {cache state : Cache K V H} (reached : cache.Reaches state)
    (phase : Phase) : Relation.ReflTransGen Step (cache, phase) (state, phase) := by
  refine reached.keeps (P := fun state => Relation.ReflTransGen Step (cache, phase) (state, phase))
    ?_ .refl
  intro before entered steps
  exact steps.tail (.client before phase entered)

theorem steps_plan (cache : Cache K V H) :
    Relation.ReflTransGen Step (cache, .planning) (plan cache) := by
  unfold plan
  split
  · exact .single (.stop cache .planning)
  · rename_i now _
    exact .single (.plan cache now)

theorem steps_hear (cache : Cache K V H) (phase : Phase) :
    Relation.ReflTransGen Step (cache, phase) (hear cache phase) := by
  cases phase with
  | planning => exact .refl
  | stopped => exact .refl
  | parked reading sleep =>
      unfold hear Cache.takeWake
      cases pending : cache.wake with
      | false => exact .refl
      | true => exact .single (.hear cache reading sleep pending)

theorem steps_ring (script : H → K → V → Script K V H) (depth : Nat) (cache : Cache K V H)
    (reading : Instant) (sleep : Duration) :
    Relation.ReflTransGen Step (cache, .parked reading sleep) (ring script depth cache) := by
  unfold ring Cache.sweep Cache.atReading
  cases cache.clock.now with
  | error fault => exact .single (.stop cache _)
  | ok now =>
      have rang := Step.ring cache reading sleep now
      cases told : (cache.sweepAt now).1.handlers.onEvict with
      | none =>
          simp only [told]
          exact .single rang
      | some handler =>
          have announced := (Cache.announceEvicted_reaches script depth handler
            (cache.sweepAt now).2 (cache.sweepAt now).1).1
          simp only [told]
          exact (steps_of_reaches announced .planning).head rang

/-! ## No wake-up is lost -/

/--
While the sweeper is parked and no wake-up is pending, its sleep ends by every
stored deadline, or `minSleep` after its plan if that is later, even if the end
of the sleep is not representable.
-/
theorem wakes_by_every_deadline (clock : Clock) (sharedLifetime : Option Duration)
    (skipRenewal : Bool) (handlers : Handlers K V H) {cache : Cache K V H} {reading : Instant}
    {sleep : Duration}
    (steps : Relation.ReflTransGen Step
      (Cache.create clock sharedLifetime skipRenewal handlers, .planning)
      (cache, .parked reading sleep))
    (silent : cache.wake = false) {id : SlotId} {entry : Entry K V}
    (found : cache.store.entry? id = some entry) {due : Instant}
    (dated : entry.deadline = some due) :
    reading.nanos + sleep.nanos ≤ max due.nanos (reading.nanos + minSleep.nanos) := by
  have start := Cache.valid_create clock sharedLifetime skipRenewal handlers
  have fresh : Watchful (Cache.create clock sharedLifetime skipRenewal handlers, .planning) :=
    .of_unparked start (by rintro _ _ ⟨⟩)
  have watchful := fresh.run steps
  have stored : cache.store.stored? entry.key = some entry.unplaced := by
    refine watchful.valid.stored?_eq_some_iff.mpr ⟨id, ?_, rfl⟩
    rw [Store.content?_eq, found]
    rfl
  exact watchful.awake reading sleep rfl silent entry.key entry.unplaced stored due dated

/-- A cache whose sweeper has heard of its first entry and is about to plan. -/
def informedCache : Cache Nat Nat Empty :=
  (Cache.create {} none false {}).afterAll
    [.client (.write 1 10 (.lasting (.ofSeconds 5)) ⟨0⟩), .planSleep ⟨0⟩, .takeWake]

/-- The same after the plan and a second write, which comes due later and leaves no wake-up. -/
def quietCache : Cache Nat Nat Empty :=
  informedCache.afterAll
    [.planSleep ⟨0⟩, .client (.write 2 20 (.lasting (.ofSeconds 9)) ⟨1⟩)]

theorem quietCache_wakes_by_second_deadline :
    quietCache.wake = false ∧
      (quietCache.store.entry? 1).bind Entry.deadline = some ⟨9000000001⟩ ∧
      0 + (informedCache.planSleepAt ⟨0⟩).2.nanos ≤ max 9000000001 (0 + minSleep.nanos) := by
  have silent : quietCache.wake = false := by decide +kernel
  have dated : (quietCache.store.entry? 1).bind Entry.deadline = some ⟨9000000001⟩ := by
    decide +kernel
  have informed : Relation.ReflTransGen Step (Cache.create {} none false {}, .planning)
      (informedCache, .planning) :=
    ((Relation.ReflTransGen.single
      (.client _ _ (.write 1 10 (.lasting (.ofSeconds 5)) ⟨0⟩))).tail (.plan _ ⟨0⟩)).tail
      (.hear _ _ _ (by decide +kernel))
  have parked : Relation.ReflTransGen Step (Cache.create {} none false {}, .planning)
      (quietCache, .parked ⟨0⟩ (informedCache.planSleepAt ⟨0⟩).2) :=
    (informed.tail (.plan _ ⟨0⟩)).tail (.client _ _ (.write 2 20 (.lasting (.ofSeconds 9)) ⟨1⟩))
  obtain ⟨entry, found, due⟩ := Option.bind_eq_some_iff.mp dated
  exact ⟨silent, dated, wakes_by_every_deadline {} none false {} parked silent found due⟩

end Sweeper

end ExpiringCache
