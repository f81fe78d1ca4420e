import ExpiringCache.Proofs.Cache.Invariant
import ExpiringCache.Proofs.Cache.Quiet
import ExpiringCache.Proofs.Ledger.Passes

/-!
# The ledger is followed

With quiet handlers and local checks a cache shows in every session what the
ledger shows, up to the order of keys and of entries that are due together.
-/

namespace ExpiringCache

/-- When a cache shows what a ledger shows. -/
inductive Report.Matches {K V : Type} :
    Report K V (List (K × V)) → Report K V (List (K × Item V)) → Prop where
  | fault (fault : Fault) : Matches (.fault fault) (.fault fault)
  | ignored : Matches .ignored .ignored
  | written (isNew : Bool) : Matches (.written isNew) (.written isNew)
  | answer (answer : Answer K V) : Matches (.answer answer) (.answer answer)
  | keys {left right : List K} (perm : left.Perm right) :
      Matches (.answer (.keys left)) (.answer (.keys right))
  | sleep (duration : Duration) : Matches (.sleep duration) (.sleep duration)
  /-- The evicted pairs are those of the ledger, the earliest deadline first. -/
  | evicted {order gone : List (K × Item V)} (perm : order.Perm gone)
      (sorted : order.Pairwise fun early late =>
        Schedule.precedes late.2.deadline early.2.deadline = false) :
      Matches (.evicted (order.map fun row => (row.1, row.2.value))) (.evicted gone)

namespace Ledger

variable {K V H : Type} [DecidableEq K] {ledger : Ledger K V}

/-! ## Changes that keep the agreement -/

namespace Mirrors

variable {store : Store K V} {check : Option (ExpiryCheck K V)}

theorem put (mirrors : ledger.Mirrors store check) {index : KeyIndex K}
    {schedule : Schedule K V} (valid : { store with index, schedule }.Valid) {key : K}
    {entry : Entry K V}
    (stored : ∀ name, { store with index, schedule }.stored? name =
      if key = name then some entry else store.stored? name) :
    (ledger.put key entry.item).Mirrors { store with index, schedule } check := by
  refine { mirrors with valid, items := ?_ }
  intro name
  rw [stored, Ledger.put, lookup_insert, mirrors.items]
  split
  · rfl
  · rfl

theorem recount (mirrors : ledger.Mirrors store check) (counters : Counters) :
    { ledger with counters }.Mirrors { store with counters } check :=
  { mirrors with valid := mirrors.valid.of_same rfl rfl, counters := rfl }

theorem clear (mirrors : ledger.Mirrors store check) :
    { ledger with items := ∅ }.Mirrors store.purge check := by
  refine { mirrors with valid := store.valid_purge, items := ?_ }
  intro key
  rw [Store.stored?_purge, AList.lookup_empty]
  rfl

end Mirrors

/-- After a step a ledger mirrors the cache again, and both have shown the same. -/
structure Follows (before after : Cache K V H) (shown : Report K V (List (K × V)))
    (outcome : Ledger K V × Report K V (List (K × Item V)) × Bool) : Prop where
  mirrors : outcome.1.Mirrors after.store after.handlers.check
  matched : shown.Matches outcome.2.1
  wake : after.wake = (before.wake || outcome.2.2)

variable {cache : Cache K V H}

theorem follows_still (mirrors : ledger.Mirrors cache.store cache.handlers.check)
    {shown : Report K V (List (K × V))} {reported : Report K V (List (K × Item V))}
    (matched : shown.Matches reported) :
    Follows cache cache shown (ledger, reported, false) :=
  ⟨mirrors, matched, (Bool.or_false cache.wake).symm⟩

theorem follows_write (mirrors : ledger.Mirrors cache.store cache.handlers.check)
    (opened : cache.store.closed = false) (key : K) (value : V) (lifetime : Lifetime)
    (now : Instant) :
    Follows cache (cache.writeAt key value lifetime now).1
      (.written (cache.store.write key value lifetime now).2.isNew)
      (ledger.write key (({ value, lifetime } : Item V).renew now ledger.sharedLifetime),
        .written (ledger.items.lookup key).isNone,
        ledger.calls (({ value, lifetime } : Item V).renew now ledger.sharedLifetime)) := by
  have absent : (ledger.items.lookup key).isNone = (cache.store.index.find? key).isNone := by
    rw [← Option.not_isSome, ← Option.not_isSome, mirrors.isSome_lookup]
  have valid := mirrors.valid.write key value lifetime now
  have stored := mirrors.valid.stored?_write key value lifetime now
  obtain ⟨index, schedule, frame⟩ := cache.store.write_frame key value lifetime now
  have isNew : (cache.store.write key value lifetime now).2.isNew =
      (ledger.items.lookup key).isNone := by
    rw [Store.write_eq, absent]
  have wake : (cache.store.write key value lifetime now).2.wake =
      ledger.calls (({ value, lifetime } : Item V).renew now ledger.sharedLifetime) := by
    rw [mirrors.valid.write_wake, mirrors.calls_eq, mirrors.sharedLifetime]
    rfl
  rw [frame] at valid stored
  rw [Cache.writeAt, if_neg (ne_true_of_eq_false opened)]
  refine ⟨?_, ?_, ?_⟩
  · have put := (mirrors.put (valid.of_same rfl rfl) stored).recount
      (if (cache.store.index.find? key).isNone then cache.store.counters.countInsertion
        else cache.store.counters)
    change Mirrors _ (cache.store.write key value lifetime now).1 cache.handlers.check
    rw [frame, write, absent, mirrors.counters, mirrors.sharedLifetime]
    exact put
  · rw [isNew]
    exact .written _
  · exact congrArg (cache.wake || ·) wake

/-- A read agrees whether it hits or misses, and on a closed cache. -/
theorem follows_read (mirrors : ledger.Mirrors cache.store cache.handlers.check) (key : K)
    (now : Instant) (answer : Option (V × Option Duration) → Answer K V) :
    Follows cache (cache.readAt key now).1 (.answer (answer (cache.readAt key now).2))
      ((ledger.read key now).1, .answer (answer (ledger.read key now).2.1),
        (ledger.read key now).2.2) := by
  have closedSame := mirrors.closed
  have liveSame := mirrors.live?_eq key now
  cases closed : cache.store.closed with
  | true =>
      rw [Cache.readAt_of_closed closed, read_of_closed (closedSame.trans closed)]
      exact follows_still mirrors (.answer _)
  | false =>
      have opened := closedSame.trans closed
      cases looked : cache.store.live? key now with
      | none =>
          rw [looked] at liveSame
          rw [Cache.readAt_of_miss closed looked, read_of_miss opened liveSame, mirrors.counters]
          exact ⟨mirrors.recount _, .answer _, (Bool.or_false cache.wake).symm⟩
      | some entry =>
          rw [looked] at liveSame
          have valid := Cache.valid_readAt mirrors.valid key now
          obtain ⟨schedule, read, stored⟩ := Cache.readAt_of_hit mirrors.valid closed looked
          rw [read] at valid
          have kept : ledger.keptOnRead entry.item now = (cache.keptOnRead entry now).item := by
            rw [keptOnRead, Cache.keptOnRead, mirrors.skipRenewal, mirrors.sharedLifetime]
            split
            · rfl
            · rfl
          have wake : (!ledger.skipRenewal && ledger.calls (cache.keptOnRead entry now).item) =
              (!cache.store.skipRenewal && cache.store.sleepsPast
                (entry.renew now cache.store.sharedLifetime).deadline) := by
            rw [mirrors.calls_eq, mirrors.skipRenewal, Cache.keptOnRead]
            cases cache.store.skipRenewal with
            | true => rfl
            | false => rfl
          rw [read, read_of_hit opened liveSame, kept, wake, mirrors.counters]
          exact ⟨(mirrors.put (valid.of_same rfl rfl) stored).recount _, .answer _, rfl⟩

theorem follows_touch (mirrors : ledger.Mirrors cache.store cache.handlers.check) (key : K)
    (now : Instant) :
    Follows cache (cache.touchAt key now).1 (.answer (.flag (cache.touchAt key now).2))
      (match ledger.live? key now with
        | none => (ledger, .answer (.flag false), false)
        | some item =>
            (ledger.put key (item.renew now ledger.sharedLifetime), .answer (.flag true),
              ledger.calls (item.renew now ledger.sharedLifetime))) := by
  rw [mirrors.live?_eq]
  cases looked : cache.store.live? key now with
  | none =>
      rw [Cache.touchAt_of_miss looked]
      exact follows_still mirrors (.answer _)
  | some entry =>
      have valid := Cache.valid_enter mirrors.valid (.touch key now)
      obtain ⟨schedule, touched, stored⟩ := Cache.touchAt_of_hit mirrors.valid looked
      rw [Cache.enter, touched] at valid
      rw [touched, Option.map_some, mirrors.sharedLifetime]
      refine ⟨mirrors.put (valid.of_same rfl rfl) stored, .answer _, ?_⟩
      exact congrArg (cache.wake || ·)
        (mirrors.calls_eq (entry.item.renew now cache.store.sharedLifetime)).symm

theorem follows_remove (mirrors : ledger.Mirrors cache.store cache.handlers.check) (key : K) :
    Follows cache (cache.remove key).1 (.answer (.flag (cache.remove key).2))
      ({ ledger with items := ledger.items.erase key },
        .answer (.flag (ledger.items.lookup key).isSome), false) := by
  have present : (cache.remove key).2 = (ledger.items.lookup key).isSome := by
    rw [mirrors.isSome_lookup]
    exact cache.store.remove_snd key
  obtain ⟨index, schedule, frame⟩ := cache.store.remove_frame key
  have valid := mirrors.valid.remove key
  have stored := mirrors.valid.stored?_remove key
  rw [present]
  refine ⟨?_, .answer _, (Bool.or_false cache.wake).symm⟩
  change Mirrors _ (cache.store.remove key).1 cache.handlers.check
  rw [frame] at valid stored ⊢
  refine { mirrors with valid, items := ?_ }
  intro name
  rw [stored, lookup_erase, mirrors.items]
  split
  · rfl
  · rfl

theorem follows_close (mirrors : ledger.Mirrors cache.store cache.handlers.check) :
    Follows cache cache.close (.answer .done)
      ({ ledger with items := if ledger.closed then ledger.items else ∅, closed := true },
        .answer .done, false) := by
  rw [Cache.close_eq]
  cases closed : cache.store.closed with
  | true =>
      have already := mirrors.closed.trans closed
      rw [if_pos rfl, if_pos already, ← already]
      exact follows_still mirrors (.answer .done)
  | false =>
      have opened := mirrors.closed.trans closed
      rw [if_neg Bool.false_ne_true, if_neg (ne_true_of_eq_false opened)]
      rw [Cache.markClosed, if_neg (ne_true_of_eq_false closed)]
      refine ⟨?_, .answer .done, (Bool.or_false cache.wake).symm⟩
      exact { mirrors.clear with
        valid := Store.valid_purge _
        items := mirrors.clear.items
        closed := rfl }

theorem follows_planSleep (mirrors : ledger.Mirrors cache.store cache.handlers.check)
    (now : Instant) :
    Follows cache (cache.planSleepAt now).1 (.sleep (cache.planSleepAt now).2)
      ({ ledger with nextWake := now.add? (ledger.sleepTime now) },
        .sleep (ledger.sleepTime now), false) := by
  rw [mirrors.sleepTime_eq]
  refine ⟨?_, .sleep _, (Bool.or_false cache.wake).symm⟩
  exact { mirrors with valid := mirrors.valid.of_same rfl rfl, nextWake := rfl }

theorem follows_sweep (mirrors : ledger.Mirrors cache.store cache.handlers.check)
    (now : Instant) :
    Follows cache (cache.sweepAt now).1 (.evicted (cache.sweepAt now).2)
      ((ledger.sweep now).1, .evicted (ledger.sweep now).2, false) := by
  obtain ⟨order, perm, sorted, evicted⟩ := mirrors.evicted now
  refine ⟨mirrors.sweep now, ?_, (Bool.or_false cache.wake).symm⟩
  change Report.Matches (.evicted (cache.store.sweep cache.handlers.check now).evicted) _
  rw [evicted]
  exact .evicted perm sorted

end Ledger

/-! ## Actions -/

def Action.InstallsLocal {K V H : Type} [DecidableEq K] : Action K V H → Prop
  | .call (.onCheck verdict) => ExpiryCheck.Local verdict
  | _ => True

namespace Ledger

variable {K V H : Type} [DecidableEq K] {ledger : Ledger K V} {cache : Cache K V H}
  {script : H → K → V → Script K V H}

/-- A call that needs the time agrees if it agrees at every reading. -/
theorem follows_atReading (mirrors : ledger.Mirrors cache.store cache.handlers.check)
    {body : Instant → Cache K V H × Except Fault (Answer K V)}
    {ledgerBody : Instant → Ledger K V × Report K V (List (K × Item V)) × Bool}
    (each : ∀ now, Follows cache (body now).1 (.ofResult (body now).2) (ledgerBody now)) :
    Follows cache (cache.atReading body).1 (.ofResult (cache.atReading body).2)
      (ledger.atReading cache.clock ledgerBody) := by
  unfold Cache.atReading atReading
  cases cache.clock.now with
  | error fault => exact follows_still mirrors (.fault fault)
  | ok now => exact each now

theorem follows_set (quiet : ∀ handler key value, (script handler key value).isQuiet = true)
    (depth : Nat) (mirrors : ledger.Mirrors cache.store cache.handlers.check)
    (key : K) (value : V) (lifetime : Lifetime) :
    Follows cache (cache.perform script depth (.set key value lifetime)).1
      (cache.report script depth cache.clock (.call (.set key value lifetime)))
      (ledger.act cache.clock (.call (.set key value lifetime) : Action K V H)) := by
  simp only [Cache.report, act, atReading]
  cases reading : cache.clock.now with
  | error fault =>
      simp only [Cache.perform, Cache.atReading, reading]
      exact follows_still mirrors (.fault fault)
  | ok now =>
      obtain ⟨events, performed⟩ :=
        Cache.perform_set_of_quiet quiet depth reading key value lifetime
      rw [performed]
      have closedSame := mirrors.closed
      cases closed : cache.store.closed with
      | true =>
          rw [closed] at closedSame
          simp only [closedSame, if_true]
          rw [Cache.writeAt, if_pos closed]
          exact ⟨mirrors, .ignored, (Bool.or_false cache.wake).symm⟩
      | false =>
          rw [closed] at closedSame
          simp only [closedSame, Bool.false_eq_true, if_false]
          have wrote := follows_write mirrors closed key value lifetime now
          exact ⟨wrote.mirrors, wrote.matched, wrote.wake⟩

/-- Calls other than writes agree. -/
theorem follows_plain (depth : Nat) (mirrors : ledger.Mirrors cache.store cache.handlers.check)
    {call : Call K V H} (plain : ∀ key value lifetime, call ≠ .set key value lifetime)
    (installs : (Action.call call).InstallsLocal) :
    Follows cache (cache.perform script depth call).1
      (.ofResult (cache.perform script depth call).2) (ledger.act cache.clock (.call call)) := by
  unfold Cache.perform
  cases call with
  | set key value lifetime => exact absurd rfl (plain key value lifetime)
  | get key =>
      exact follows_atReading mirrors fun now =>
        follows_read mirrors key now fun lease => .value (lease.map Prod.fst)
  | getLease key =>
      exact follows_atReading mirrors fun now => follows_read mirrors key now .lease
  | touch key => exact follows_atReading mirrors fun now => follows_touch mirrors key now
  | remove key => exact follows_remove mirrors key
  | count =>
      simp only [mirrors.count_eq]
      exact follows_still mirrors (.answer _)
  | keys =>
      exact follows_atReading mirrors fun now =>
        follows_still mirrors (.keys (mirrors.liveKeys_perm now))
  | counters =>
      simp only [act, mirrors.counters]
      exact follows_still mirrors (.answer _)
  | setSharedLifetime duration =>
      have positive : (if duration = .zero then none else some duration) =
          Duration.positive? (some duration) := by
        rw [Duration.positive?, Option.filter_some]
        by_cases zero : duration = .zero
        · simp [zero]
        · simp [zero]
      refine ⟨?_, .answer _, rfl⟩
      exact { mirrors with valid := mirrors.valid.of_same rfl rfl, sharedLifetime := positive }
  | skipRenewal skip =>
      refine ⟨?_, .answer _, (Bool.or_false cache.wake).symm⟩
      exact { mirrors with valid := mirrors.valid.of_same rfl rfl, skipRenewal := rfl }
  | onInsert handler => exact ⟨mirrors, .answer _, (Bool.or_false cache.wake).symm⟩
  | onEvict handler => exact ⟨mirrors, .answer _, (Bool.or_false cache.wake).symm⟩
  | onCheck verdict =>
      refine ⟨{ mirrors with alike := ?_ }, .answer _, (Bool.or_false cache.wake).symm⟩
      exact .some installs fun _ => rfl
  | purge => exact ⟨mirrors.clear, .answer _, (Bool.or_false cache.wake).symm⟩
  | close => exact follows_close mirrors
  | isClosed =>
      simp only [act, mirrors.closed]
      exact follows_still mirrors (.answer _)

/-- One action of a cache with quiet handlers agrees with one step of the ledger. -/
theorem follows_act (quiet : ∀ handler key value, (script handler key value).isQuiet = true)
    (depth : Nat) (mirrors : ledger.Mirrors cache.store cache.handlers.check) (clock : Clock)
    {action : Action K V H} (installs : action.InstallsLocal) :
    Follows cache (cache.act script depth clock action)
      (cache.report script depth clock action) (ledger.act clock action) := by
  have started : ledger.Mirrors { cache with clock }.store { cache with clock }.handlers.check :=
    mirrors
  suffices own : Follows { cache with clock } (cache.act script depth clock action)
      (cache.report script depth clock action) (ledger.act clock action) from
    ⟨own.mirrors, own.matched, own.wake⟩
  cases action with
  | call call =>
      cases call with
      | set key value lifetime => exact follows_set quiet depth started key value lifetime
      | _ => exact follows_plain depth started (by rintro _ _ _ ⟨⟩) installs
  | planSleep =>
      simp only [Cache.act, Cache.report, act, Cache.planSleep, Cache.atReading, atReading]
      cases clock.now with
      | error fault => exact follows_still started (.fault fault)
      | ok now => exact follows_planSleep started now
  | sweep =>
      simp only [Cache.act, Cache.report, act, atReading]
      cases reading : clock.now with
      | error fault =>
          simp only [Cache.sweep, Cache.atReading, reading]
          exact follows_still started (.fault fault)
      | ok now =>
          obtain ⟨events, swept⟩ := Cache.sweep_of_quiet quiet depth
            (show { cache with clock }.clock.now = .ok now from reading)
          rw [swept]
          have passed := follows_sweep started now
          exact ⟨passed.mirrors, passed.matched, passed.wake⟩

/-- A cache and a ledger that agree at first show the same in every session. -/
theorem reports_match (quiet : ∀ handler key value, (script handler key value).isQuiet = true)
    (depth : Nat) (session : List (Clock × Action K V H))
    (installs : ∀ step ∈ session, step.2.InstallsLocal)
    (mirrors : ledger.Mirrors cache.store cache.handlers.check) :
    List.Forall₂ (fun shown reported => shown.1.Matches reported.1 ∧ shown.2 = reported.2)
      (cache.reports script depth session) (ledger.reports session) := by
  induction session generalizing cache ledger with
  | nil => exact .nil
  | cons step rest ih =>
      obtain ⟨clock, action⟩ := step
      have own := installs (clock, action) List.mem_cons_self
      have follows := follows_act quiet depth mirrors clock own
      have silenced : ledger.Mirrors { cache with wake := false }.store
          { cache with wake := false }.handlers.check := mirrors
      refine .cons ⟨follows.matched, (follows_act quiet depth silenced clock own).wake⟩ ?_
      exact ih (fun step listed => installs step (List.mem_cons_of_mem _ listed)) follows.mirrors

theorem mirrors_create (clock : Clock) (sharedLifetime : Option Duration) (skipRenewal : Bool)
    {handlers : Handlers K V H}
    (rule : ∀ installed ∈ handlers.check, ExpiryCheck.Local installed.verdict) :
    (create sharedLifetime skipRenewal handlers.check).Mirrors
      (Cache.create clock sharedLifetime skipRenewal handlers).store handlers.check where
  valid := Cache.valid_create clock sharedLifetime skipRenewal handlers
  items _ := rfl
  sharedLifetime := rfl
  skipRenewal := rfl
  closed := rfl
  counters := rfl
  nextWake := rfl
  alike := .of_local rule

/--
A cache follows the ledger in every session from its creation on, whatever the
clock reads, as long as its handlers make no calls and its checks are local.
-/
theorem cache_follows_ledger
    (quiet : ∀ handler key value, (script handler key value).isQuiet = true) (depth : Nat)
    (clock : Clock) (sharedLifetime : Option Duration) (skipRenewal : Bool)
    (handlers : Handlers K V H)
    (rule : ∀ installed ∈ handlers.check, ExpiryCheck.Local installed.verdict)
    (session : List (Clock × Action K V H)) (installs : ∀ step ∈ session, step.2.InstallsLocal) :
    List.Forall₂ (fun shown reported => shown.1.Matches reported.1 ∧ shown.2 = reported.2)
      ((Cache.create clock sharedLifetime skipRenewal handlers).reports script depth session)
      ((create sharedLifetime skipRenewal handlers.check).reports session) :=
  reports_match quiet depth session installs
    (mirrors_create clock sharedLifetime skipRenewal rule)

/-- A session in which each of two keys is vetoed once and evicted later. -/
def vetoedSession : List (Clock × Action Nat Nat Unit) :=
  [({}, .call (.set 1 10 (.lasting (.ofSeconds 2)))),
    ({}, .call (.set 2 20 (.lasting (.ofSeconds 1)))),
    ({ elapsed := .ofSeconds 1 }, .call (.touch 1)),
    ({ elapsed := .ofSeconds 4 }, .sweep),
    ({ elapsed := .ofSeconds 4 }, .planSleep),
    ({ elapsed := .ofSeconds 9 }, .call .keys),
    ({ elapsed := .ofSeconds 9 }, .sweep)]

/-- The handlers of the session fail whenever they are run. -/
theorem vetoedSession_follows_ledger :
    (∀ step ∈ vetoedSession, step.2.InstallsLocal) ∧
      List.Forall₂ (fun shown reported => shown.1.Matches reported.1 ∧ shown.2 = reported.2)
        ((Cache.create {} none false
          { onInsert := some (), onEvict := some (),
            check := some { vetoFirst := 1 : VetoRule Nat }.check }).reports
          (fun _ _ _ => .fail) 1 vetoedSession)
        ((create none false (some { vetoFirst := 1 : VetoRule Nat }.check)).reports
          vetoedSession) := by
  have installs : ∀ step ∈ vetoedSession, step.2.InstallsLocal := by
    simp [vetoedSession, Action.InstallsLocal]
  refine ⟨installs, cache_follows_ledger (fun _ _ _ => rfl) 1 {} none false
    { onInsert := some (), onEvict := some (),
      check := some { vetoFirst := 1 : VetoRule Nat }.check } ?_ vetoedSession installs⟩
  rintro installed ⟨⟩
  exact VetoRule.local_verdict { vetoFirst := 1 }

end Ledger

end ExpiringCache
