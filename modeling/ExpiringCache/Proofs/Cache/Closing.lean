import ExpiringCache.Proofs.Cache.Threads
import ExpiringCache.Proofs.Store.Pass

/-!
# Closing

Closing is final in every order of turns.  One call of `close` marks the cache
and purges it, and all others return at once.  Marked caches take no writes, and
a cache that is empty and marked stays so, whatever is done to it.
-/

namespace ExpiringCache

namespace Store

variable {K V : Type} [DecidableEq K] {store : Store K V} {counters : Counters}

/-- Closed, with nothing stored, and with these counters. -/
structure Ended (store : Store K V) (counters : Counters) : Prop where
  closed : store.closed = true
  index : store.index = {}
  schedule : store.schedule = {}
  counters_eq : store.counters = counters

namespace Ended

theorem find?_eq (ended : store.Ended counters) (key : K) : store.index.find? key = none := by
  rw [ended.index]
  exact KeyIndex.find?_empty key

theorem liveSlot?_eq (ended : store.Ended counters) (key : K) (now : Instant) :
    store.liveSlot? key now = none := by
  rw [liveSlot?, ended.find?_eq]
  rfl

theorem touch_eq (ended : store.Ended counters) (key : K) (now : Instant) :
    store.touch key now = (store, none) := by
  rw [touch, ended.liveSlot?_eq]

theorem remove_eq (ended : store.Ended counters) (key : K) : store.remove key = (store, false) := by
  rw [remove, ended.find?_eq]

omit [DecidableEq K] in
theorem liveKeys_eq (ended : store.Ended counters) (now : Instant) : store.liveKeys now = [] := by
  rw [liveKeys, ended.index]
  rfl

theorem sweep_eq (ended : store.Ended counters) (check : Option (ExpiryCheck K V))
    (now : Instant) : store.sweep check now = { store, check } := by
  have finished : store.round? check now = none := by
    unfold round?
    rw [ended.schedule]
    rfl
  rw [sweep]
  split
  · rfl
  · rename_i goesOn
    rw [finished] at goesOn
    cases goesOn

omit [DecidableEq K] in
theorem purge (ended : store.Ended counters) : store.purge.Ended counters :=
  ⟨ended.closed, rfl, rfl, ended.counters_eq⟩

omit [DecidableEq K] in
theorem of_same (ended : store.Ended counters) {other : Store K V}
    (closed : other.closed = store.closed) (index : other.index = store.index)
    (schedule : other.schedule = store.schedule) (same : other.counters = store.counters) :
    other.Ended counters :=
  ⟨closed.trans ended.closed, index.trans ended.index, schedule.trans ended.schedule,
    same.trans ended.counters_eq⟩

end Ended

/-- A pass closes nothing. -/
theorem closed_sweep (store : Store K V) (check : Option (ExpiryCheck K V)) (now : Instant) :
    (store.sweep check now).store.closed = store.closed := by
  fun_induction Store.sweep store check now with
  | case1 => rfl
  | case2 store check round goesOn rest ih =>
      obtain ⟨id, entry, -, -, -, rfl⟩ := round?_cases goesOn
      obtain ⟨index, schedule, frame⟩ := judge_frame store check id entry now
      exact ih.trans (by rw [frame])

end Store

namespace Cache

variable {K V H : Type} [DecidableEq K] {before after : Cache K V H}

/-- A change that does not close the cache, and leaves one alone that has ended. -/
structure Heeds (before after : Cache K V H) : Prop where
  closed : after.store.closed = before.store.closed
  ended : ∀ counters, before.store.Ended counters → after.store.Ended counters

namespace Heeds

omit [DecidableEq K] in
theorem refl (cache : Cache K V H) : Heeds cache cache := ⟨rfl, fun _ => id⟩

omit [DecidableEq K] in
theorem of_still (closed : after.store.closed = before.store.closed)
    (still : ∀ counters, before.store.Ended counters → after.store = before.store) :
    Heeds before after where
  closed := closed
  ended counters ended := by
    rw [still counters ended]
    exact ended

omit [DecidableEq K] in
/-- Settings and plans do not matter. -/
theorem of_settings (closed : after.store.closed = before.store.closed)
    (index : after.store.index = before.store.index)
    (schedule : after.store.schedule = before.store.schedule)
    (counters : after.store.counters = before.store.counters) : Heeds before after where
  closed := closed
  ended _ ended := ended.of_same closed index schedule counters

theorem writeAt (cache : Cache K V H) (key : K) (value : V) (lifetime : Lifetime)
    (now : Instant) : Heeds cache (cache.writeAt key value lifetime now).1 := by
  refine .of_still ?_ ?_
  · rw [store_writeAt]
    split
    · rfl
    · obtain ⟨index, schedule, frame⟩ := cache.store.write_frame key value lifetime now
      rw [frame]
  · intro counters ended
    rw [Cache.writeAt, if_pos ended.closed]

theorem readAt (cache : Cache K V H) (key : K) (now : Instant) :
    Heeds cache (cache.readAt key now).1 := by
  refine .of_still ?_ ?_
  · unfold Cache.readAt Store.lookup
    split
    · rfl
    · cases cache.store.liveSlot? key now with
      | none => rfl
      | some id =>
          unfold Store.renewOnRead
          simp only
          split
          · rfl
          · obtain ⟨schedule, renewed⟩ := Store.renew_eq
              { cache.store with counters := cache.store.counters.countHit } id now
            simp only [renewed, signal]
  · intro counters ended
    rw [Cache.readAt, if_pos ended.closed]

theorem touchAt (cache : Cache K V H) (key : K) (now : Instant) :
    Heeds cache (cache.touchAt key now).1 := by
  refine .of_still ?_ ?_
  · rw [store_touchAt, Store.touch]
    split
    · rfl
    · rename_i id _
      obtain ⟨schedule, renewed⟩ := cache.store.renew_eq id now
      simp only [renewed]
  · intro counters ended
    rw [store_touchAt, ended.touch_eq]

theorem remove (cache : Cache K V H) (key : K) : Heeds cache (cache.remove key).1 := by
  refine .of_still ?_ ?_
  · obtain ⟨index, schedule, frame⟩ := cache.store.remove_frame key
    change (cache.store.remove key).1.closed = cache.store.closed
    rw [frame]
  · intro counters ended
    exact congrArg Prod.fst (ended.remove_eq key)

omit [DecidableEq K] in
theorem purge (cache : Cache K V H) : Heeds cache cache.purge := ⟨rfl, fun _ => .purge⟩

theorem sweepAt (cache : Cache K V H) (now : Instant) : Heeds cache (cache.sweepAt now).1 := by
  refine .of_still ?_ ?_
  · exact cache.store.closed_sweep cache.handlers.check now
  · intro counters ended
    exact congrArg Store.Pass.store (ended.sweep_eq cache.handlers.check now)

/-- A plain call does not close the cache. -/
theorem perform {script : H → K → V → Script K V H} (depth : Nat) {request : Call K V H}
    (isPlain : request.isPlain = true) (cache : Cache K V H) :
    Heeds cache (cache.perform script depth request).1 := by
  unfold Cache.perform
  cases request with
  | set key value lifetime => cases isPlain
  | close => cases isPlain
  | get key => exact atReading_keeps (.refl cache) fun now => .readAt cache key now
  | getLease key => exact atReading_keeps (.refl cache) fun now => .readAt cache key now
  | touch key => exact atReading_keeps (.refl cache) fun now => .touchAt cache key now
  | remove key => exact .remove cache key
  | keys => exact atReading_keeps (.refl cache) fun _ => .refl cache
  | purge => exact .purge cache
  | _ => exact .of_settings rfl rfl rfl rfl

end Heeds

end Cache

/-! ## Turns -/

section

variable {K V H : Type} [DecidableEq K] {script : H → K → V → Script K V H}
  {cache reached : Cache K V H} {thread left : Thread K V H}

theorem Turn.heeds (taken : Turn script cache thread none reached left) :
    cache.Heeds reached ∧ thread.closing = false ∧ left.closing = false := by
  cases taken with
  | leave task rest => exact ⟨.refl cache, rfl, rfl⟩
  | note event following rest => exact ⟨.of_settings rfl rfl rfl rfl, rfl, rfl⟩
  | write key value lifetime now next rest =>
      exact ⟨.writeAt cache key value lifetime now, rfl, rfl⟩
  | plain clock isPlain answered next rest =>
      have heeds : Cache.Heeds { cache with clock } ({ cache with clock }.perform script 0 _).1 :=
        .perform 0 isPlain { cache with clock }
      exact ⟨⟨heeds.closed, heeds.ended⟩, rfl, rfl⟩

theorem Turn.marks (taken : Turn script cache thread (some .marks) reached left) :
    cache.store.closed = false ∧ reached.store.closed = true ∧
      thread.closing = false ∧ left.closing = true := by
  cases taken with
  | mark opened next rest =>
      unfold Cache.markClosed at opened ⊢
      split at opened
      · cases opened
      · rename_i unmarked
        exact ⟨eq_false_of_ne_true unmarked, by rw [if_neg unmarked], rfl, rfl⟩

theorem Turn.refuses (taken : Turn script cache thread (some .refuses) reached left) :
    cache.store.closed = true ∧ reached = cache ∧
      thread.closing = false ∧ left.closing = false := by
  cases taken with
  | refuse already next rest =>
      unfold Cache.markClosed at already ⊢
      split at already
      · rename_i closed
        exact ⟨closed, by rw [if_pos closed], rfl, rfl⟩
      · cases already

theorem Turn.purges (taken : Turn script cache thread (some .purges) reached left) :
    reached = cache.purge ∧ thread.closing = true ∧ left.closing = false := by
  cases taken with
  | purge tasks => exact ⟨rfl, rfl, rfl⟩

end

/-! ## Stages -/

namespace World

variable {T K V H : Type} [DecidableEq T] [DecidableEq K] {script : H → K → V → Script K V H}
  {world next : World T K V H}

/-- How far closing has come.  All calls of `close` but one are refused. -/
inductive Stage (world : World T K V H) : Prop where
  | opened (history : world.history = []) (unmarked : world.cache.store.closed = false)
      (none : ∀ who, (world.threads who).closing = false)
  | closing (who : Who T) (late : List (Who T × Deed))
      (history : world.history = (who, .marks) :: late)
      (refused : ∀ deed ∈ late, deed.2 = .refuses) (marked : world.cache.store.closed = true)
      (one : ∀ other, (world.threads other).closing = true ↔ other = who)
  | ended (who : Who T) (early late : List (Who T × Deed))
      (history : world.history = (who, .marks) :: (early ++ (who, .purges) :: late))
      (refused : ∀ deed ∈ early ++ late, deed.2 = .refuses)
      (none : ∀ other, (world.threads other).closing = false)
      (ended : ∃ counters, world.cache.store.Ended counters)

omit [DecidableEq T] [DecidableEq K] in
/-- A step that is no part of a call of `close`. -/
theorem Stage.calm (stage : world.Stage) (heeds : world.cache.Heeds next.cache)
    (threads : ∀ who, (next.threads who).closing = (world.threads who).closing)
    (history : next.history = world.history) : next.Stage := by
  cases stage with
  | opened before unmarked none =>
      exact .opened (history.trans before) (heeds.closed.trans unmarked)
        fun who => (threads who).trans (none who)
  | closing who late before refused marked one =>
      exact .closing who late (history.trans before) refused (heeds.closed.trans marked)
        fun other => (threads other) ▸ one other
  | ended who early late before refused none ended =>
      obtain ⟨counters, ended⟩ := ended
      exact .ended who early late (history.trans before) refused
        (fun other => (threads other).trans (none other)) ⟨counters, heeds.ended counters ended⟩

omit [DecidableEq K] in
theorem history_turned (world : World T K V H) (who : Who T) (cache : Cache K V H)
    (thread : Thread K V H) (deed : Deed) :
    (world.turned who cache thread (some deed)).history = world.history ++ [(who, deed)] := rfl

omit [DecidableEq K] in
theorem closing_turned (world : World T K V H) {who : Who T} (cache : Cache K V H)
    {thread : Thread K V H} (deed : Option Deed) (other : Who T) :
    ((world.turned who cache thread deed).threads other).closing =
      if other = who then thread.closing else (world.threads other).closing := by
  change (Function.update world.threads who thread other).closing = _
  rw [Function.update_apply]
  split
  · rfl
  · rfl

omit [DecidableEq K] in
theorem closing_turned_of_same {who : Who T} {thread : Thread K V H}
    (same : thread.closing = (world.threads who).closing) (cache : Cache K V H)
    (deed : Option Deed) (other : Who T) :
    ((world.turned who cache thread deed).threads other).closing =
      (world.threads other).closing := by
  rw [closing_turned]
  split
  · rename_i it
    rw [same, it]
  · rfl

omit [DecidableEq K] in
/-- A turn that is no part of a call of `close`. -/
theorem Stage.calm_turn (stage : world.Stage) {who : Who T} {cache : Cache K V H}
    {thread : Thread K V H} (heeds : world.cache.Heeds cache)
    (before : (world.threads who).closing = false) (after : thread.closing = false) :
    (world.turned who cache thread none).Stage :=
  stage.calm heeds (closing_turned_of_same (after.trans before.symm) cache none)
    (List.append_nil world.history)

theorem Stage.mark (stage : world.Stage) {who : Who T} {cache : Cache K V H}
    {thread : Thread K V H}
    (taken : Turn script world.cache (world.threads who) (some .marks) cache thread) :
    (world.turned who cache thread (some .marks)).Stage := by
  obtain ⟨unmarked, marked, -, closing⟩ := taken.marks
  cases stage with
  | opened history _ none =>
      refine .closing who [] ?_ (fun _ absent => (nomatch absent)) marked ?_
      · rw [history_turned, history]
        rfl
      · intro other
        rw [closing_turned]
        split
        · rename_i same
          exact iff_of_true closing same
        · rename_i different
          exact iff_of_false (ne_true_of_eq_false (none other)) different
  | closing _ _ _ _ already _ => cases unmarked.symm.trans already
  | ended _ _ _ _ _ _ ended =>
      obtain ⟨counters, ended⟩ := ended
      cases unmarked.symm.trans ended.closed

theorem Stage.refuse (stage : world.Stage) {who : Who T} {cache : Cache K V H}
    {thread : Thread K V H}
    (taken : Turn script world.cache (world.threads who) (some .refuses) cache thread) :
    (world.turned who cache thread (some .refuses)).Stage := by
  obtain ⟨closed, rfl, before, after⟩ := taken.refuses
  have threads := closing_turned_of_same (after.trans before.symm) world.cache (some .refuses)
  have oneMore {deeds : List (Who T × Deed)} (refused : ∀ deed ∈ deeds, deed.2 = .refuses) :
      ∀ deed ∈ deeds ++ [(who, .refuses)], deed.2 = .refuses := by
    intro deed listed
    rcases List.mem_append.mp listed with early | last
    · exact refused deed early
    · rw [List.mem_singleton.mp last]
  cases stage with
  | opened _ unmarked _ => cases unmarked.symm.trans closed
  | closing closer late history refused marked one =>
      refine .closing closer (late ++ [(who, .refuses)]) ?_ (oneMore refused) marked
        fun other => (threads other) ▸ one other
      rw [history_turned, history]
      rfl
  | ended closer early late history refused none ended =>
      refine .ended closer early (late ++ [(who, .refuses)]) ?_ ?_
        (fun other => (threads other).trans (none other)) ended
      · rw [history_turned, history, List.cons_append, List.append_assoc]
        rfl
      · rw [← List.append_assoc]
        exact oneMore refused

theorem Stage.purge (stage : world.Stage) {who : Who T} {cache : Cache K V H}
    {thread : Thread K V H}
    (taken : Turn script world.cache (world.threads who) (some .purges) cache thread) :
    (world.turned who cache thread (some .purges)).Stage := by
  obtain ⟨rfl, before, after⟩ := taken.purges
  cases stage with
  | opened _ _ none => cases (none who).symm.trans before
  | closing closer late history refused marked one =>
      obtain rfl := (one who).mp before
      refine .ended who late [] ?_ ?_ ?_ ⟨_, marked, rfl, rfl, rfl⟩
      · rw [history_turned, history]
        rfl
      · rw [List.append_nil]
        exact refused
      · intro other
        rw [closing_turned]
        split
        · exact after
        · rename_i different
          exact eq_false_of_ne_true fun closing => different ((one other).mp closing)
  | ended _ _ _ _ _ none _ => cases (none who).symm.trans before

/-- Every step of the world fits the stage it is in. -/
theorem Stage.step (stage : world.Stage) (stepped : Step script world next) : next.Stage := by
  cases stepped with
  | begins name task idle => exact stage.calm_turn (.refl world.cache) (by rw [idle]) rfl
  | @turn who deed cache thread taken =>
      cases deed with
      | none =>
          obtain ⟨heeds, before, after⟩ := taken.heeds
          exact stage.calm_turn heeds before after
      | some deed =>
          cases deed with
          | marks => exact stage.mark taken
          | refuses => exact stage.refuse taken
          | purges => exact stage.purge taken
  | plan now idle => exact stage.calm (.of_settings rfl rfl rfl rfl) (fun _ => rfl) rfl
  | hear idle => exact stage.calm (.of_settings rfl rfl rfl rfl) (fun _ => rfl) rfl
  | pass now idle => exact stage.calm_turn (.sweepAt world.cache now) (by rw [idle]) rfl

/-- No step opens a marked cache again. -/
theorem closed_step (stepped : Step script world next)
    (closed : world.cache.store.closed = true) : next.cache.store.closed = true := by
  cases stepped with
  | begins name task idle => exact closed
  | @turn who deed cache thread taken =>
      cases deed with
      | none => exact taken.heeds.1.closed.trans closed
      | some deed =>
          cases deed with
          | marks => exact taken.marks.2.1
          | refuses => exact (congrArg (·.store.closed) taken.refuses.2.1).trans closed
          | purges => exact (congrArg (·.store.closed) taken.purges.1).trans closed
  | plan now idle => exact closed
  | hear idle => exact closed
  | pass now idle => exact (Cache.Heeds.sweepAt world.cache now).closed.trans closed

/-- No step changes a cache that has ended. -/
theorem ended_step (stepped : Step script world next) {counters : Counters}
    (ended : world.cache.store.Ended counters) : next.cache.store.Ended counters := by
  cases stepped with
  | begins name task idle => exact ended
  | @turn who deed cache thread taken =>
      cases deed with
      | none => exact taken.heeds.1.ended counters ended
      | some deed =>
          cases deed with
          | marks => cases taken.marks.1.symm.trans ended.closed
          | refuses =>
              change cache.store.Ended counters
              rw [taken.refuses.2.1]
              exact ended
          | purges =>
              change cache.store.Ended counters
              rw [taken.purges.1]
              exact ended.purge
  | plan now idle => exact ended.of_same rfl rfl rfl rfl
  | hear idle => exact ended
  | pass now idle => exact (Cache.Heeds.sweepAt world.cache now).ended counters ended

/-- What every step keeps holds after all of them. -/
theorem Leads.keeps {P : World T K V H → Prop}
    (step : ∀ world next, Step script world next → P world → P next)
    (leads : Leads script world next) (start : P world) : P next := by
  induction leads with
  | refl => exact start
  | tail _ stepped ih => exact step _ _ stepped ih

theorem stage_of_leads {cache : Cache K V H} (opened : cache.store.closed = false)
    (run : Leads script { cache } world) : world.Stage :=
  run.keeps (fun _ _ stepped stage => stage.step stepped)
    (.opened rfl opened fun _ => rfl)

omit [DecidableEq T] [DecidableEq K] in
/-- A cache that a thread has marked is closed. -/
theorem Stage.closed_of_mark (stage : world.Stage) {who : Who T}
    (listed : (who, .marks) ∈ world.history) : world.cache.store.closed = true := by
  cases stage with
  | opened history _ _ =>
      rw [history] at listed
      cases listed
  | closing _ _ _ _ marked _ => exact marked
  | ended _ _ _ _ _ _ ended =>
      obtain ⟨counters, ended⟩ := ended
      exact ended.closed

omit [DecidableEq T] [DecidableEq K] in
/-- A cache that a thread has purged after its marking has ended. -/
theorem Stage.ended_of_purge (stage : world.Stage) {who : Who T}
    (listed : (who, .purges) ∈ world.history) :
    world.cache.store.Ended world.cache.store.counters := by
  cases stage with
  | opened history _ _ =>
      rw [history] at listed
      cases listed
  | closing closer late history refused _ _ =>
      rw [history] at listed
      rcases List.mem_cons.mp listed with same | member
      · cases same
      · cases refused _ member
  | ended _ _ _ _ _ _ ended =>
      obtain ⟨counters, ended⟩ := ended
      exact ⟨ended.closed, ended.index, ended.schedule, rfl⟩

/-- What can be seen of a cache that has ended. -/
theorem answers_of_ended {cache : Cache K V H} {counters : Counters}
    (ended : cache.store.Ended counters) (now : Instant) :
    cache.store.liveKeys now = [] ∧ (cache.sweepAt now).2 = [] ∧
      ∀ key, (cache.readAt key now).2 = none ∧ (cache.touchAt key now).2 = false ∧
        (cache.remove key).2 = false := by
  refine ⟨ended.liveKeys_eq now,
    congrArg Store.Pass.evicted (ended.sweep_eq cache.handlers.check now), fun key => ⟨?_, ?_, ?_⟩⟩
  · rw [Cache.readAt, if_pos ended.closed]
  · rw [Cache.touchAt, ended.touch_eq]
  · exact congrArg Prod.snd (ended.remove_eq key)

/--
Closing is final.  Among all calls of `close`, of any clients and of handlers at
work on any thread, exactly one marks the cache; it alone purges it later, and
all others return at once.  From the marking on no write changes anything.  Once
the cache is purged it stays closed and empty, with the same counters and no
answers, in every later state.
-/
theorem closing_is_final (script : H → K → V → Script K V H) (clock : Clock)
    (sharedLifetime : Option Duration) (skipRenewal : Bool) (handlers : Handlers K V H)
    {world : World T K V H}
    (run : Leads script
      { cache := Cache.create clock sharedLifetime skipRenewal handlers } world) :
    (world.history = [] ∧ world.cache.store.closed = false ∨
      world.cache.store.closed = true ∧ ∃ who late, world.history = (who, .marks) :: late ∧
        ((∀ deed ∈ late, deed.2 = .refuses) ∧ (world.threads who).closing = true ∨
          ∃ early rest, late = early ++ (who, .purges) :: rest ∧
            ∀ deed ∈ early ++ rest, deed.2 = .refuses)) ∧
    ((∃ who, (who, .marks) ∈ world.history) → ∀ later, Leads script world later →
      later.cache.store.closed = true ∧
        ∀ key value lifetime now,
          later.cache.writeAt key value lifetime now = (later.cache, none)) ∧
    ((∃ who, (who, .purges) ∈ world.history) → ∀ later, Leads script world later →
      later.cache.store.Ended world.cache.store.counters ∧
        ∀ now, later.cache.store.liveKeys now = [] ∧ (later.cache.sweepAt now).2 = [] ∧
          ∀ key, (later.cache.readAt key now).2 = none ∧
            (later.cache.touchAt key now).2 = false ∧ (later.cache.remove key).2 = false) := by
  have stage := stage_of_leads rfl run
  refine ⟨?_, ?_, ?_⟩
  · cases stage with
    | opened history unmarked _ => exact .inl ⟨history, unmarked⟩
    | closing who late history refused marked one =>
        exact .inr ⟨marked, who, late, history, .inl ⟨refused, (one who).mpr rfl⟩⟩
    | ended who early late history refused _ ended =>
        obtain ⟨counters, ended⟩ := ended
        exact .inr ⟨ended.closed, who, _, history, .inr ⟨early, late, rfl, refused⟩⟩
  · rintro ⟨who, listed⟩ later leads
    have closed := leads.keeps (fun _ _ => closed_step) (stage.closed_of_mark listed)
    refine ⟨closed, fun key value lifetime now => ?_⟩
    rw [Cache.writeAt, if_pos closed]
  · rintro ⟨who, listed⟩ later leads
    have lasting := leads.keeps (fun _ _ stepped => ended_step stepped)
      (stage.ended_of_purge listed)
    exact ⟨lasting, answers_of_ended lasting⟩

/-- A handler of new entries that closes the cache. -/
def closeOnInsert : Unit → Nat → Nat → Script Nat Nat Unit :=
  fun _ _ _ => .call .close fun _ => .done

def twoClosers : World Nat Nat Nat Unit :=
  { cache := Cache.create {} none false { onInsert := some () } }

/--
A client whose handler closes the cache, another one that closes it too, and a
pass of the sweeper between the marking and the purge.
-/
theorem twoClosers_end :
    ∃ world, Leads closeOnInsert twoClosers world ∧
      (∃ who, (who, .purges) ∈ world.history) ∧ world.cache.store.counters.inserted = 1 ∧
      ∀ later, Leads closeOnInsert world later →
        later.cache.store.Ended world.cache.store.counters := by
  have run := Relation.ReflTransGen.refl (r := Step closeOnInsert) (a := twoClosers)
  have run := run.tail (.begins _ 0 (.call (.set 1 10 .unlimited) fun _ => .done) rfl)
  have run := run.tail (.begins _ 1 (.call .close fun _ => .done) rfl)
  have run := run.tail (.turn _ (.client 0) (.write _ 1 10 .unlimited .origin (fun _ => .done) []))
  have run := run.tail (.turn _ (.client 0) (.note _ _ _ []))
  have run := run.tail (.turn _ (.client 0) (.mark _ rfl _ []))
  have run := run.tail (.turn _ (.client 1) (.refuse _ rfl _ []))
  have run := run.tail (.pass _ .origin rfl)
  have run := run.tail (.turn _ (.client 0) (.purge _ _))
  have purged : (Who.client 0, Deed.purges) ∈
      [(Who.client 0, Deed.marks), (Who.client 1, Deed.refuses), (Who.client 0, Deed.purges)] := by
    decide
  refine ⟨_, run, ⟨_, purged⟩, by decide +kernel, fun later leads => ?_⟩
  exact ((closing_is_final closeOnInsert {} none false { onInsert := some () } run).2.2
    ⟨_, purged⟩ later leads).1

end World

end ExpiringCache
