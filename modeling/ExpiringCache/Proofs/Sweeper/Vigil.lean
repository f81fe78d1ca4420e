import ExpiringCache.Proofs.Cache.Quiet
import ExpiringCache.Proofs.Store.PassByKey
import ExpiringCache.Proofs.Sweeper.WakeUp

/-!
# Vigils

A sweeper that nobody disturbs takes turns: it plans, sleeps for exactly the
planned time and makes its pass.  An entry is evicted only after its deadline,
and yet by the first pass that ends `minSleep` later, whatever else is due and
however the shared lifetime cuts the sleeps.
-/

namespace ExpiringCache

namespace Store.Valid

variable {K V : Type} [DecidableEq K] {store : Store K V}

/-- A pass without a check leaves what is live. -/
theorem stored?_sweep_unchecked (valid : store.Valid) (now : Instant) (key : K) :
    (store.sweep none now).store.stored? key = store.live? key now := by
  obtain ⟨rulings, settles⟩ := valid.sweep_settles none now
  have passValid := valid.sweep none now
  have due := settles.on?_entry valid key
  rw [live?]
  cases ruled : Ruling.on? rulings key with
  | some ruling =>
      have permitted := settles.follow.permitted_of_permissive .of_none ruling
        (Ruling.mem_of_on? ruled).1
      rw [ruled, Option.map_some] at due
      obtain ⟨stored, expired⟩ := Option.filter_eq_some_iff.mp due.symm
      rw [settles.stored?_of_ruled valid passValid ruled, if_pos permitted, stored]
      simp [Option.filter_some, expired]
  | none =>
      rw [ruled, Option.map_none] at due
      rw [settles.stored?_of_unruled valid passValid ruled]
      cases stored : store.stored? key with
      | none => rfl
      | some entry =>
          have live : entry.isExpired now = false := by
            simpa [stored, Option.filter_some] using due.symm
          simp [Option.filter_some, live]

/-- A pass without a check evicts what has expired. -/
theorem mem_evicted_unchecked (valid : store.Valid) {now : Instant} {key : K}
    {entry : Entry K V} (stored : store.stored? key = some entry)
    (expired : entry.isExpired now = true) :
    (key, entry.value) ∈ (store.sweep none now).evicted := by
  obtain ⟨rulings, settles⟩ := valid.sweep_settles none now
  obtain ⟨slot, here, rfl⟩ := valid.stored?_eq_some_iff.mp stored
  obtain ⟨ruling, listed, same⟩ :=
    List.mem_map.mp ((settles.mem_iff slot entry).mpr ⟨here, expired⟩)
  obtain ⟨-, rfl⟩ := Prod.mk.inj same
  have permitted := settles.follow.permitted_of_permissive .of_none ruling listed
  rw [settles.evicted_eq]
  exact List.mem_map.mpr ⟨ruling, List.mem_filter.mpr ⟨listed, permitted⟩, rfl⟩

end Store.Valid

namespace Sweeper

/-- A store in the care of the sweeper alone, at an instant between two of its passes. -/
structure Vigil (K V : Type) where
  store : Store K V
  now : Instant

namespace Vigil

variable {K V : Type} [DecidableEq K]

/--
One turn: a plan, a sleep of exactly the planned length, and a pass without a
check.  There is none if the end of the sleep is not representable.
-/
def turn? (vigil : Vigil K V) : Option (Vigil K V × List (K × V)) :=
  let planned := vigil.store.planSleep vigil.now
  (vigil.now.add? planned.2).map fun woken =>
    let pass := planned.1.sweep none woken
    ({ store := pass.store, now := woken }, pass.evicted)

def after? (vigil : Vigil K V) : Nat → Option (Vigil K V)
  | 0 => some vigil
  | turns + 1 => vigil.turn?.bind fun (next, _) => next.after? turns

/-- Entries with a deadline are under watch. -/
def Watches (vigil : Vigil K V) (key : K) (entry : Entry K V) (due : Instant) : Prop :=
  vigil.store.stored? key = some entry ∧ entry.deadline = some due

/--
The invariant of a vigil that began at `start`: it has not passed the deadline
of any entry it still holds, except for those that had passed at the start.
-/
structure Prompt (start : Instant) (vigil : Vigil K V) : Prop where
  valid : vigil.store.Valid
  begun : start.nanos ≤ vigil.now.nanos
  ahead : ∀ key entry due, vigil.Watches key entry due →
    vigil.now.nanos ≤ max due.nanos start.nanos

variable {start : Instant} {vigil next : Vigil K V} {batch : List (K × V)}

/-! ## One turn -/

theorem turn?_of_representable {woken : Instant}
    (sum : vigil.now.add? (vigil.store.sleepTime vigil.now) = some woken) :
    vigil.turn? =
      some ({ store := ((vigil.store.planSleep vigil.now).1.sweep none woken).store, now := woken },
        ((vigil.store.planSleep vigil.now).1.sweep none woken).evicted) :=
  Option.map_eq_some_iff.mpr ⟨woken, sum, rfl⟩

theorem parts_of_turn (turned : vigil.turn? = some (next, batch)) :
    vigil.now.add? (vigil.store.sleepTime vigil.now) = some next.now ∧
      next.store = ((vigil.store.planSleep vigil.now).1.sweep none next.now).store ∧
      batch = ((vigil.store.planSleep vigil.now).1.sweep none next.now).evicted := by
  obtain ⟨woken, sum, same⟩ := Option.map_eq_some_iff.mp turned
  obtain ⟨rfl, rfl⟩ := Prod.mk.inj same
  exact ⟨sum, rfl, rfl⟩

/-- A turn leaves what is live at its end. -/
theorem stored?_of_turn (valid : vigil.store.Valid) (turned : vigil.turn? = some (next, batch))
    (key : K) : next.store.stored? key = vigil.store.live? key next.now := by
  obtain ⟨-, store, -⟩ := parts_of_turn turned
  have planned : (vigil.store.planSleep vigil.now).1.Valid := valid.of_same rfl rfl
  rw [store, planned.stored?_sweep_unchecked]
  rfl

theorem valid_of_turn (valid : vigil.store.Valid) (turned : vigil.turn? = some (next, batch)) :
    next.store.Valid := by
  obtain ⟨-, store, -⟩ := parts_of_turn turned
  have planned : (vigil.store.planSleep vigil.now).1.Valid := valid.of_same rfl rfl
  rw [store]
  exact planned.sweep none next.now

theorem mem_batch_of_turn (valid : vigil.store.Valid)
    (turned : vigil.turn? = some (next, batch)) {key : K} {entry : Entry K V}
    (stored : vigil.store.stored? key = some entry)
    (expired : entry.isExpired next.now = true) : (key, entry.value) ∈ batch := by
  obtain ⟨-, -, evicted⟩ := parts_of_turn turned
  have planned : (vigil.store.planSleep vigil.now).1.Valid := valid.of_same rfl rfl
  rw [evicted]
  exact planned.mem_evicted_unchecked stored expired

omit [DecidableEq K] in
theorem minSleep_le_sleepTime {store : Store K V} {due : Instant}
    (first : store.earliestDeadline? = some due) (now : Instant) :
    minSleep.nanos ≤ (store.sleepTime now).nanos := by
  rw [Store.sleepTime, first]
  simp only [Duration.nanos_min, Duration.nanos_max]
  have shorter : minSleep.nanos ≤ idleSleep.nanos := by decide
  omega

namespace Prompt

/--
While an entry with a deadline is stored, a turn takes at least `minSleep`, and
ends by the deadline unless it takes just that long.
-/
theorem sleep_bounds (prompt : Prompt start vigil) {key : K} {entry : Entry K V}
    {due : Instant} (watched : vigil.Watches key entry due) :
    minSleep.nanos ≤ (vigil.store.sleepTime vigil.now).nanos ∧
      vigil.now.nanos + (vigil.store.sleepTime vigil.now).nanos ≤
        max due.nanos (vigil.now.nanos + minSleep.nanos) := by
  obtain ⟨stored, dated⟩ := watched
  cases first : vigil.store.earliestDeadline? with
  | none =>
      rw [prompt.valid.deadline_of_earliest_none first stored] at dated
      cases dated
  | some earliest =>
      exact ⟨minSleep_le_sleepTime first vigil.now,
        inTimeForAll_sleepTime prompt.valid vigil.now key entry stored due dated⟩

theorem turn (prompt : Prompt start vigil) (turned : vigil.turn? = some (next, batch)) :
    Prompt start next := by
  obtain ⟨sum, -, -⟩ := parts_of_turn turned
  have woken := (Instant.add?_eq_some_iff.mp sum).1
  have begun := prompt.begun
  refine ⟨valid_of_turn prompt.valid turned, by omega, ?_⟩
  rintro key entry due ⟨stored, dated⟩
  rw [stored?_of_turn prompt.valid turned] at stored
  have live := (Store.live?_eq_some_iff.mp stored).2
  have late := Entry.isExpired_eq_false_iff.mp live due dated
  rw [Instant.le_iff] at late
  omega

/-- An entry that a turn finds expired has been due for no longer than `minSleep`. -/
theorem on_time (prompt : Prompt start vigil) (turned : vigil.turn? = some (next, batch))
    {key : K} {entry : Entry K V} {due : Instant} (watched : vigil.Watches key entry due)
    (late : due.nanos < next.now.nanos) :
    max due.nanos start.nanos < next.now.nanos ∧
      next.now.nanos ≤ max due.nanos start.nanos + minSleep.nanos := by
  obtain ⟨least, most⟩ := prompt.sleep_bounds watched
  obtain ⟨sum, -, -⟩ := parts_of_turn turned
  have woken := (Instant.add?_eq_some_iff.mp sum).1
  have begun := prompt.begun
  have ahead := prompt.ahead key entry due watched
  have positive : 0 < minSleep.nanos := by decide
  omega

/-- While an entry with a deadline is stored, the end of a turn is representable. -/
theorem turns (prompt : Prompt start vigil) {key : K} {entry : Entry K V} {due : Instant}
    (watched : vigil.Watches key entry due)
    (fits : max due.nanos start.nanos + minSleep.nanos < Instant.limit.nanos) :
    ∃ next batch, vigil.turn? = some (next, batch) := by
  obtain ⟨-, most⟩ := prompt.sleep_bounds watched
  have ahead := prompt.ahead key entry due watched
  have sum : vigil.now.add? (vigil.store.sleepTime vigil.now) =
      some ⟨vigil.now.nanos + (vigil.store.sleepTime vigil.now).nanos⟩ :=
    Instant.add?_eq_some_iff.mpr ⟨rfl, by simp only; omega⟩
  exact ⟨_, _, turn?_of_representable sum⟩

/-- A turn that does not find an entry expired leaves it, and has taken time. -/
theorem watches_next (prompt : Prompt start vigil) (turned : vigil.turn? = some (next, batch))
    {key : K} {entry : Entry K V} {due : Instant} (watched : vigil.Watches key entry due)
    (early : ¬ due.nanos < next.now.nanos) :
    next.Watches key entry due ∧ vigil.now.nanos < next.now.nanos := by
  obtain ⟨least, -⟩ := prompt.sleep_bounds watched
  obtain ⟨sum, -, -⟩ := parts_of_turn turned
  have woken := (Instant.add?_eq_some_iff.mp sum).1
  have positive : 0 < minSleep.nanos := by decide
  have live : entry.isExpired next.now = false := by
    rw [← Bool.not_eq_true, Entry.isExpired_of_dated watched.2]
    exact early
  refine ⟨⟨?_, watched.2⟩, by omega⟩
  rw [stored?_of_turn prompt.valid turned]
  exact Store.live?_eq_some_iff.mpr ⟨watched.1, live⟩

end Prompt

/-! ## The turn that evicts an entry -/

/-- The pass after so many turns, at the given time, evicts an entry that was stored until then. -/
def EvictsAt (vigil : Vigil K V) (turns : Nat) (time : Instant) (key : K) (entry : Entry K V) :
    Prop :=
  ∃ before next batch, vigil.after? turns = some before ∧ before.turn? = some (next, batch) ∧
    next.now = time ∧ before.store.stored? key = some entry ∧ (key, entry.value) ∈ batch ∧
    next.store.stored? key = none

theorem after?_succ (turned : vigil.turn? = some (next, batch)) (turns : Nat) :
    vigil.after? (turns + 1) = next.after? turns := by
  rw [after?, turned, Option.bind_some]

theorem EvictsAt.later (turned : vigil.turn? = some (next, batch)) {turns : Nat}
    {time : Instant} {key : K} {entry : Entry K V} (evicts : next.EvictsAt turns time key entry) :
    vigil.EvictsAt (turns + 1) time key entry := by
  obtain ⟨before, last, evicted, reached, rest⟩ := evicts
  exact ⟨before, last, evicted, (after?_succ turned turns).trans reached, rest⟩

/-- Every deadline is met by some turn, and by one in time. -/
theorem Prompt.evicts (prompt : Prompt start vigil) {key : K} {entry : Entry K V}
    {due : Instant} (watched : vigil.Watches key entry due)
    (fits : max due.nanos start.nanos + minSleep.nanos < Instant.limit.nanos) :
    ∃ turns time, vigil.EvictsAt turns time key entry ∧
      max due.nanos start.nanos < time.nanos ∧
      time.nanos ≤ max due.nanos start.nanos + minSleep.nanos := by
  -- The time left until the deadline falls with every turn that comes too early.
  induction left : due.nanos - vigil.now.nanos using Nat.strongRecOn generalizing vigil with
  | ind left ih =>
      obtain ⟨next, batch, turned⟩ := prompt.turns watched fits
      by_cases late : due.nanos < next.now.nanos
      · have expired := (Entry.isExpired_of_dated watched.2).mpr late
        have gone : next.store.stored? key = none := by
          rw [stored?_of_turn prompt.valid turned, Store.live?, watched.1, Option.filter_some,
            expired]
          rfl
        have batched := mem_batch_of_turn prompt.valid turned watched.1 expired
        exact ⟨0, next.now, ⟨vigil, next, batch, rfl, turned, rfl, watched.1, batched, gone⟩,
          prompt.on_time turned watched late⟩
      · obtain ⟨still, passed⟩ := prompt.watches_next turned watched late
        obtain ⟨turns, time, evicts, inTime⟩ :=
          ih (due.nanos - next.now.nanos) (by omega) (prompt.turn turned) still rfl
        exact ⟨turns + 1, time, evicts.later turned, inTime⟩

/-! ## The end of all deadlines -/

def undated (stored : Option (Entry K V)) : Option (Entry K V) :=
  stored.filter (·.deadline.isNone)

omit [DecidableEq K] in
theorem filter_live_undated (stored : Option (Entry K V)) (now : Instant) :
    (undated stored).filter (!·.isExpired now) = undated stored := by
  rw [undated, Option.filter_filter]
  congr 1
  funext entry
  unfold Entry.isExpired
  cases entry.deadline <;> simp

omit [DecidableEq K] in
theorem undated_filter_live (stored : Option (Entry K V)) (now : Instant) :
    undated (stored.filter (!·.isExpired now)) = undated stored := by
  rw [← filter_live_undated stored now, undated, undated, Option.filter_filter,
    Option.filter_filter]
  congr 1
  funext entry
  exact Bool.and_comm _ _

theorem undated_of_turn (valid : vigil.store.Valid) (turned : vigil.turn? = some (next, batch))
    (key : K) : undated (next.store.stored? key) = undated (vigil.store.stored? key) := by
  rw [stored?_of_turn valid turned, Store.live?, undated_filter_live]

/-- After finitely many turns only entries without a deadline are left, as they were. -/
theorem Prompt.finishes (prompt : Prompt start vigil)
    (fits : ∀ key entry due, vigil.Watches key entry due →
      max due.nanos start.nanos + minSleep.nanos < Instant.limit.nanos) :
    ∃ turns last, vigil.after? turns = some last ∧ last.store.Valid ∧
      ∀ key, last.store.stored? key = undated (vigil.store.stored? key) := by
  -- Time passes with every turn, and no turn ends beyond the last instant.
  induction left : Instant.limit.nanos - vigil.now.nanos using Nat.strongRecOn
    generalizing vigil with
  | ind left ih =>
      by_cases finished : ∃ key entry due, vigil.Watches key entry due
      · obtain ⟨key, entry, due, watched⟩ := finished
        obtain ⟨next, batch, turned⟩ := prompt.turns watched (fits key entry due watched)
        have kept (key : K) (entry : Entry K V) (due : Instant)
            (watched : next.Watches key entry due) : vigil.Watches key entry due := by
          have stored := watched.1
          rw [stored?_of_turn prompt.valid turned] at stored
          exact ⟨(Store.live?_eq_some_iff.mp stored).1, watched.2⟩
        obtain ⟨sum, -, -⟩ := parts_of_turn turned
        have woken := Instant.add?_eq_some_iff.mp sum
        have least := (prompt.sleep_bounds watched).1
        have positive : 0 < minSleep.nanos := by decide
        obtain ⟨turns, last, reached, valid, rest⟩ :=
          ih (Instant.limit.nanos - next.now.nanos) (by omega) (prompt.turn turned)
            (fun key entry due watched => fits key entry due (kept key entry due watched)) rfl
        refine ⟨turns + 1, last, (after?_succ turned turns).trans reached, valid, ?_⟩
        intro key
        rw [rest, undated_of_turn prompt.valid turned]
      · refine ⟨0, vigil, rfl, prompt.valid, ?_⟩
        intro key
        cases stored : vigil.store.stored? key with
        | none => rfl
        | some entry =>
            cases dated : entry.deadline with
            | none => simp [undated, Option.filter_some, dated]
            | some due => exact absurd ⟨key, entry, due, stored, dated⟩ finished

/-- Once nothing is due, further turns change nothing. -/
theorem stored?_of_idle (valid : vigil.store.Valid) {settled : K → Option (Entry K V)}
    (idle : ∀ key, vigil.store.stored? key = undated (settled key)) (turns : Nat)
    {last : Vigil K V} (reached : vigil.after? turns = some last) (key : K) :
    last.store.stored? key = undated (settled key) := by
  induction turns generalizing vigil with
  | zero =>
      obtain rfl := Option.some.inj reached
      exact idle key
  | succ turns ih =>
      obtain ⟨⟨next, batch⟩, turned, rest⟩ := Option.bind_eq_some_iff.mp reached
      refine ih (valid_of_turn valid turned) ?_ rest
      intro key
      rw [stored?_of_turn valid turned, Store.live?, idle, filter_live_undated]

/-! ## The loop takes these turns -/

section

variable {H : Type} {script : H → K → V → Script K V H} {cache : Cache K V H} {now : Instant}

/-- A pass returns the size of its batch. -/
theorem sweep_snd (script : H → K → V → Script K V H) (depth : Nat)
    (reading : cache.clock.now = .ok now) :
    (cache.sweep script depth).2 = .ok (cache.sweepAt now).2.length := by
  rw [Cache.sweep, Cache.atReading, reading]
  cases told : (cache.sweepAt now).1.handlers.onEvict with
  | none => simp only [told]
  | some handler => simp only [told]

/-- Up to the record, the loop makes a pass and plans again. -/
theorem ring_of_quiet
    (quiet : ∀ handler key value, (script handler key value).isQuiet = true) (depth : Nat)
    (cache : Cache K V H) (reading : cache.clock.now = .ok now) :
    ∃ events, ring script depth cache = ((cache.sweepAt now).1.record events, .planning) := by
  obtain ⟨events, swept⟩ := Cache.sweep_of_quiet quiet depth reading
  have outcome : cache.sweep script depth =
      ((cache.sweepAt now).1.record events, .ok (cache.sweepAt now).2.length) :=
    Prod.ext swept (sweep_snd script depth reading)
  refine ⟨events, ?_⟩
  unfold ring
  simp only [outcome]

omit [DecidableEq K] in
/-- A clock that shows the end of a sleep can be moved there. -/
theorem advance_of_representable (cache : Cache K V H) (reading : cache.clock.now = .ok now)
    {sleep : Duration} {woken : Instant} (sum : now.add? sleep = some woken) :
    ∃ clock, cache.advance sleep = ({ cache with clock }, .ok ()) ∧ clock.now = .ok woken := by
  obtain ⟨shown, -⟩ := Clock.now_eq_ok_iff.mp reading
  obtain ⟨reached, fits⟩ := Instant.add?_eq_some_iff.mp sum
  have narrower : Instant.limit.nanos ≤ Duration.limit.nanos := by decide
  have moved : cache.clock.elapsed.add? sleep =
      some ⟨cache.clock.elapsed.nanos + sleep.nanos⟩ :=
    Duration.add?_eq_some_iff.mpr ⟨rfl, by simp only; omega⟩
  refine ⟨{ cache.clock with elapsed := ⟨cache.clock.elapsed.nanos + sleep.nanos⟩ }, ?_, ?_⟩
  · rw [Cache.advance, Clock.advance, moved]
  · exact Clock.now_eq_ok_iff.mpr ⟨by simp only; omega, fits⟩

/--
With quiet handlers and no check, a turn of a vigil is what the loop does to its
cache: it plans, and when the clock has moved on by the sleep, it makes its pass.
-/
theorem loop_takes_turn
    (quiet : ∀ handler key value, (script handler key value).isQuiet = true) (depth : Nat)
    (valid : cache.store.Valid) (reading : cache.clock.now = .ok now)
    (unchecked : cache.handlers.check = none)
    (turned : Vigil.turn? { store := cache.store, now } = some (next, batch)) :
    ∃ planned sleep rested rung, plan cache = (planned, .parked now sleep) ∧
      planned.advance sleep = (rested, .ok ()) ∧
      ring script depth rested = (rung, .planning) ∧ (rested.sweepAt next.now).2 = batch ∧
      rung.store = next.store ∧ rung.clock.now = .ok next.now ∧ rung.handlers.check = none := by
  obtain ⟨sum, store, evicted⟩ := parts_of_turn turned
  have planned : plan cache =
      ((cache.planSleepAt now).1, .parked now (cache.planSleepAt now).2) := by
    rw [plan, reading]
  obtain ⟨clock, advanced, shown⟩ :=
    advance_of_representable (cache.planSleepAt now).1 reading sum
  obtain ⟨events, rung⟩ :=
    ring_of_quiet quiet depth { (cache.planSleepAt now).1 with clock } shown
  have planValid : (cache.store.planSleep now).1.Valid := valid.of_same rfl rfl
  have unasked : ((cache.store.planSleep now).1.sweep none next.now).check = none := by
    obtain ⟨rulings, settles⟩ := planValid.sweep_settles none next.now
    rw [settles.check_eq, ExpiryCheck.askedAll_none]
  refine ⟨_, _, _, _, planned, advanced, rung, ?_, ?_, shown, ?_⟩
  · change ((cache.store.planSleep now).1.sweep cache.handlers.check next.now).evicted = batch
    rw [unchecked, evicted]
  · change ((cache.store.planSleep now).1.sweep cache.handlers.check next.now).store = next.store
    rw [unchecked, store]
  · change ((cache.store.planSleep now).1.sweep cache.handlers.check next.now).check = none
    rw [unchecked, unasked]

end

/--
An undisturbed sweeper is never early and hardly late.  Whatever a cache holds
and whenever the sweeper starts, every entry with a deadline is evicted by a
pass after the deadline, or after the start if that is later, and no more than
`minSleep` after it.  After finitely many turns all these entries are gone for
good, and all the others are as they were.
-/
theorem evicts_soon_after_every_deadline (clock : Clock) (sharedLifetime : Option Duration)
    (skipRenewal : Bool) {H : Type} (handlers : Handlers K V H) (changes : List (Change K V H))
    (start : Instant) :
    let store := ((Cache.create clock sharedLifetime skipRenewal handlers).afterAll changes).store
    let vigil : Vigil K V := { store, now := start }
    (∀ key entry due, store.stored? key = some entry → entry.deadline = some due →
      max due.nanos start.nanos + minSleep.nanos < Instant.limit.nanos →
        ∃ turns time, vigil.EvictsAt turns time key entry ∧
          max due.nanos start.nanos < time.nanos ∧
          time.nanos ≤ max due.nanos start.nanos + minSleep.nanos) ∧
    ((∀ key entry due, store.stored? key = some entry → entry.deadline = some due →
      max due.nanos start.nanos + minSleep.nanos < Instant.limit.nanos) →
        ∃ turns last, vigil.after? turns = some last ∧
          ∀ more later, last.after? more = some later →
            ∀ key, later.store.stored? key = undated (store.stored? key)) := by
  intro store vigil
  have valid : store.Valid :=
    Cache.valid_afterAll (Cache.valid_create clock sharedLifetime skipRenewal handlers) changes
  have prompt : Prompt start vigil :=
    ⟨valid, Nat.le_refl _, fun _ _ _ _ => Nat.le_max_right _ _⟩
  constructor
  · intro key entry due stored dated fits
    exact prompt.evicts ⟨stored, dated⟩ fits
  · intro fits
    obtain ⟨turns, last, reached, lastValid, rest⟩ := prompt.finishes
      fun key entry due watched => fits key entry due watched.1 watched.2
    exact ⟨turns, last, reached, fun more later => stored?_of_idle lastValid rest more⟩

/-- Two deadlines closer together than `minSleep`, and an entry without one. -/
def clusteredWrites : List (Change Nat Nat Empty) :=
  [.client (.write 1 10 (.lasting ⟨5000000000⟩) ⟨0⟩),
    .client (.write 2 20 (.lasting ⟨5000300000⟩) ⟨0⟩), .client (.write 3 30 .unlimited ⟨0⟩)]

def clusteredCache : Cache Nat Nat Empty :=
  (Cache.create {} (some (.ofSeconds 2)) false {}).afterAll clusteredWrites

theorem clusteredCache_evicts_in_time :
    let vigil : Vigil Nat Nat := { store := clusteredCache.store, now := ⟨1⟩ }
    let later : Entry Nat Nat :=
      { key := 2, value := 20, lifetime := .lasting ⟨5000300000⟩, deadline := some ⟨5000300000⟩ }
    clusteredCache.store.stored? 2 = some later ∧
      (∃ turns time, vigil.EvictsAt turns time 2 later ∧
        max 5000300000 1 < time.nanos ∧ time.nanos ≤ max 5000300000 1 + minSleep.nanos) ∧
      ∃ turns last, vigil.after? turns = some last ∧
        ∀ more later, last.after? more = some later →
          ∀ key, later.store.stored? key = undated (clusteredCache.store.stored? key) := by
  intro vigil later
  have stored : clusteredCache.store.stored? 2 = some later := by decide +kernel
  have soon : ∀ pair ∈ clusteredCache.store.index.pairs,
      ∀ entry ∈ clusteredCache.store.stored? pair.1, ∀ due ∈ entry.deadline,
        max due.nanos 1 + minSleep.nanos < Instant.limit.nanos := by
    decide +kernel
  obtain ⟨evicts, finishes⟩ := evicts_soon_after_every_deadline {} (some (.ofSeconds 2)) false
    {} clusteredWrites ⟨1⟩
  refine ⟨stored, evicts 2 later ⟨5000300000⟩ stored rfl (by decide), finishes ?_⟩
  intro key entry due here dated
  have listed : key ∈ clusteredCache.store.index.keys := by
    rw [← KeyIndex.isSome_find?_iff]
    obtain ⟨id, found, -⟩ := Option.bind_eq_some_iff.mp here
    exact Option.isSome_iff_exists.mpr ⟨id, found⟩
  obtain ⟨pair, member, rfl⟩ := List.mem_map.mp listed
  exact soon pair member entry here due dated

end Vigil

end Sweeper

end ExpiringCache
