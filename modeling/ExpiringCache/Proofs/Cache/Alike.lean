import ExpiringCache.Proofs.Cache.Readers

/-!
# Caches alike

Two runs of one session: one with handlers that always fail where the other has
none, and with checks that differ but never veto.  A failure is caught, or ends a
call whose section is done, so both caches keep the same store, clock and wake-up.
-/

namespace ExpiringCache

namespace Script

variable {K V H : Type}

/-- Whether a script fails without having made a call. -/
def isFailing : Script K V H → Bool
  | .done => false
  | .fail => true
  | .note _ rest => rest.isFailing
  | .call _ _ => false

theorem run_of_failing {script : Script K V H} (fails : script.isFailing = true) (failure : Fault)
    (perform : Call K V H → Cache K V H → Cache K V H × Except Fault (Answer K V))
    (cache : Cache K V H) :
    ∃ events, script.run failure perform cache = (cache.record events, .error failure) := by
  induction script generalizing cache with
  | done => cases fails
  | fail => exact ⟨[], by rw [run, cache.record_nil]⟩
  | note event rest ih =>
      obtain ⟨events, ran⟩ := ih fails (cache.record [event])
      exact ⟨[event] ++ events, ran.trans (by rw [cache.record_record])⟩
  | call request next ih => cases fails

/-- After a call with the same answer in two caches, a script goes on in both or in neither. -/
theorem run_call_of_same
    {perform : Call K V H → Cache K V H → Cache K V H × Except Fault (Answer K V)}
    {request : Call K V H} {left right : Cache K V H}
    (same : (perform request left).2 = (perform request right).2) (failure : Fault)
    (next : Answer K V → Script K V H) :
    (∃ fault,
      (Script.call request next).run failure perform left =
        ((perform request left).1, .error fault) ∧
      (Script.call request next).run failure perform right =
        ((perform request right).1, .error fault)) ∨
    ∃ answer, (perform request right).2 = .ok answer ∧
      (Script.call request next).run failure perform left =
        (next answer).run failure perform (perform request left).1 ∧
      (Script.call request next).run failure perform right =
        (next answer).run failure perform (perform request right).1 := by
  rw [run, run]
  generalize perform request left = performed at same ⊢
  generalize perform request right = repeated at same ⊢
  obtain ⟨reached, outcome⟩ := performed
  obtain ⟨arrived, other⟩ := repeated
  obtain rfl : outcome = other := same
  cases outcome with
  | error fault => exact .inl ⟨fault, rfl, rfl⟩
  | ok answer => exact .inr ⟨answer, rfl, rfl, rfl⟩

/-- A call that fails ends the script. -/
theorem run_call_of_error
    {perform : Call K V H → Cache K V H → Cache K V H × Except Fault (Answer K V)}
    {request : Call K V H} {cache : Cache K V H} {fault : Fault}
    (failed : (perform request cache).2 = .error fault) (failure : Fault)
    (next : Answer K V → Script K V H) :
    ((Script.call request next).run failure perform cache).1 = (perform request cache).1 := by
  rw [run]
  generalize perform request cache = performed at failed ⊢
  obtain ⟨reached, outcome⟩ := performed
  obtain rfl : outcome = .error fault := failed
  rfl

end Script

/-- The same handlers are installed, or one that always fails is missing on the right. -/
inductive Dropped {K V H : Type} (script : H → K → V → Script K V H) :
    Option H → Option H → Prop where
  | same (told : Option H) : Dropped script told told
  | failing {handler : H} (fails : ∀ key value, (script handler key value).isFailing = true) :
      Dropped script (some handler) none

theorem Dropped.failing_of_ne {K V H : Type} {script : H → K → V → Script K V H}
    {left right : Option H} (dropped : Dropped script left right) (differ : left ≠ right) :
    ∃ handler, (∀ key value, (script handler key value).isFailing = true) ∧
      left = some handler ∧ right = none := by
  cases dropped with
  | same told => exact absurd rfl differ
  | failing fails => exact ⟨_, fails, rfl, rfl⟩

namespace Cache

variable {K V H : Type} {script : H → K → V → Script K V H}

/--
Caches that differ in failing handlers, in checks that never veto and in their
records.  If `same` is set, they have the same handler of new entries.
-/
structure Alike (script : H → K → V → Script K V H) (same : Bool) (loud quiet : Cache K V H) :
    Prop where
  store : loud.store = quiet.store
  clock : loud.clock = quiet.clock
  wake : loud.wake = quiet.wake
  onInsert : Dropped script loud.handlers.onInsert quiet.handlers.onInsert
  onEvict : Dropped script loud.handlers.onEvict quiet.handlers.onEvict
  check : loud.handlers.check = quiet.handlers.check ∨
    ExpiryCheck.Permissive loud.handlers.check ∧ ExpiryCheck.Permissive quiet.handlers.check
  kept : same = true → loud.handlers.onInsert = quiet.handlers.onInsert

namespace Alike

variable {same : Bool} {loud quiet : Cache K V H}

/-- What happens to store, clock and wake-up alike keeps caches alike. -/
theorem congr (alike : Alike script same loud quiet) {loudly quietly : Cache K V H}
    (store : loudly.store = quietly.store) (clock : loudly.clock = quietly.clock)
    (wake : loudly.wake = quietly.wake) (loudHandlers : loudly.handlers = loud.handlers)
    (quietHandlers : quietly.handlers = quiet.handlers) :
    Alike script same loudly quietly where
  store := store
  clock := clock
  wake := wake
  onInsert := by
    rw [loudHandlers, quietHandlers]
    exact alike.onInsert
  onEvict := by
    rw [loudHandlers, quietHandlers]
    exact alike.onEvict
  check := by
    rw [loudHandlers, quietHandlers]
    exact alike.check
  kept := by
    rw [loudHandlers, quietHandlers]
    exact alike.kept

theorem record (alike : Alike script same loud quiet) (left right : List (Event K V)) :
    Alike script same (loud.record left) (quiet.record right) :=
  alike.congr alike.store alike.clock alike.wake rfl rfl

theorem recordLeft (alike : Alike script same loud quiet) (events : List (Event K V)) :
    Alike script same (loud.record events) quiet :=
  alike.congr alike.store alike.clock alike.wake rfl rfl

theorem recordRight (alike : Alike script same loud quiet) (events : List (Event K V)) :
    Alike script same loud (quiet.record events) :=
  alike.congr alike.store alike.clock alike.wake rfl rfl

/-- Where the handlers of new entries are the same, caches are alike with them. -/
theorem remember (alike : Alike script same loud quiet)
    (kept : loud.handlers.onInsert = quiet.handlers.onInsert) : Alike script true loud quiet :=
  { alike with kept := fun _ => kept }

theorem weaken (alike : Alike script true loud quiet) (same : Bool) :
    Alike script same loud quiet :=
  { alike with kept := fun _ => alike.kept rfl }

theorem atReading {α : Type} (alike : Alike script same loud quiet)
    {left right : Instant → Cache K V H × Except Fault α}
    (each : ∀ now, quiet.clock.now = .ok now →
      Alike script same (left now).1 (right now).1 ∧ (left now).2 = (right now).2) :
    Alike script same (loud.atReading left).1 (quiet.atReading right).1 ∧
      (loud.atReading left).2 = (quiet.atReading right).2 := by
  unfold Cache.atReading
  rw [alike.clock]
  cases reading : quiet.clock.now with
  | error fault => exact ⟨alike, rfl⟩
  | ok now => exact each now reading

end Alike

variable [DecidableEq K]

/-- What a section makes of store, clock and wake-up does not depend on handlers and records. -/
theorem enter_congr {left right : Cache K V H} (store : left.store = right.store)
    (clock : left.clock = right.clock) (wake : left.wake = right.wake)
    (entered : Section K V H) :
    (left.enter entered).store = (right.enter entered).store ∧
      (left.enter entered).clock = (right.enter entered).clock ∧
      (left.enter entered).wake = (right.enter entered).wake := by
  obtain ⟨_, _, handlers, _, events⟩ := left
  obtain ⟨_, _, otherHandlers, _, otherEvents⟩ := right
  dsimp only at store clock wake
  subst store clock wake
  cases entered with
  | write key value lifetime now =>
      simp only [enter, writeAt]
      split
      · exact ⟨rfl, rfl, rfl⟩
      · exact ⟨rfl, rfl, rfl⟩
  | read key now =>
      simp only [enter, readAt]
      split
      · exact ⟨rfl, rfl, rfl⟩
      · split
        · exact ⟨rfl, rfl, rfl⟩
        · exact ⟨rfl, rfl, rfl⟩
  | touch key now =>
      simp only [enter, touchAt]
      split
      · exact ⟨rfl, rfl, rfl⟩
      · exact ⟨rfl, rfl, rfl⟩
  | markClosed =>
      simp only [enter, markClosed]
      split
      · exact ⟨rfl, rfl, rfl⟩
      · exact ⟨rfl, rfl, rfl⟩
  | _ => exact ⟨rfl, rfl, rfl⟩

/-- A section other than an installation leaves the handlers. -/
theorem handlers_enter (cache : Cache K V H) {entered : Section K V H}
    (plain : ∀ handlers, entered ≠ .install handlers) :
    (cache.enter entered).handlers = cache.handlers := by
  cases entered with
  | write key value lifetime now => exact handlers_writeAt cache key value lifetime now
  | read key now => exact handlers_readAt cache key now
  | touch key now => exact handlers_touchAt cache key now
  | markClosed =>
      rw [enter, markClosed]
      split
      · rfl
      · rfl
  | install handlers => exact absurd rfl (plain handlers)
  | _ => rfl

theorem readAt_snd_congr {left right : Cache K V H} (store : left.store = right.store) (key : K)
    (now : Instant) : (left.readAt key now).2 = (right.readAt key now).2 := by
  rw [readAt, readAt, store]
  split
  · rfl
  · split
    · rfl
    · rfl

theorem touchAt_snd_congr {left right : Cache K V H} (store : left.store = right.store) (key : K)
    (now : Instant) : (left.touchAt key now).2 = (right.touchAt key now).2 := by
  rw [touchAt, touchAt, store]
  split
  · rfl
  · rfl

namespace Alike

variable {same : Bool} {loud quiet : Cache K V H}

theorem enter (alike : Alike script same loud quiet) (entered : Section K V H)
    (plain : ∀ handlers, entered ≠ .install handlers) :
    Alike script same (loud.enter entered) (quiet.enter entered) := by
  obtain ⟨store, clock, wake⟩ := enter_congr alike.store alike.clock alike.wake entered
  exact alike.congr store clock wake (handlers_enter loud plain) (handlers_enter quiet plain)

theorem close (alike : Alike script same loud quiet) :
    Alike script same loud.close quiet.close := by
  have marked := alike.enter .markClosed (by simp)
  have purged := marked.enter .purge (by simp)
  rw [close_eq, close_eq, alike.store]
  split
  · exact alike
  · exact purged

/-- A call other than a write treats caches alike. -/
theorem plain (alike : Alike script same loud quiet) (depth : Nat) {call : Call K V H}
    (plain : ∀ key value lifetime, call ≠ .set key value lifetime) :
    Alike script same (loud.perform script depth call).1 (quiet.perform script depth call).1 ∧
      (loud.perform script depth call).2 = (quiet.perform script depth call).2 := by
  unfold perform
  cases call with
  | set key value lifetime => exact absurd rfl (plain key value lifetime)
  | get key =>
      apply alike.atReading
      intro now reading
      refine ⟨alike.enter (.read key now) (by simp), ?_⟩
      simp only [readAt_snd_congr alike.store]
  | getLease key =>
      apply alike.atReading
      intro now reading
      refine ⟨alike.enter (.read key now) (by simp), ?_⟩
      simp only [readAt_snd_congr alike.store]
  | touch key =>
      apply alike.atReading
      intro now reading
      refine ⟨alike.enter (.touch key now) (by simp), ?_⟩
      simp only [touchAt_snd_congr alike.store]
  | remove key =>
      refine ⟨alike.enter (.remove key) (by simp), ?_⟩
      simp only [remove, alike.store]
  | count =>
      refine ⟨alike, ?_⟩
      simp only [alike.store]
  | keys =>
      apply alike.atReading
      intro now reading
      refine ⟨alike, ?_⟩
      simp only [alike.store]
  | counters =>
      refine ⟨alike, ?_⟩
      simp only [alike.store]
  | setSharedLifetime duration => exact ⟨alike.enter (.setSharedLifetime duration) (by simp), rfl⟩
  | skipRenewal skip => exact ⟨alike.enter (.setSkipRenewal skip) (by simp), rfl⟩
  | onInsert handler =>
      exact ⟨{ alike with onInsert := .same _, kept := fun _ => rfl }, rfl⟩
  | onEvict handler => exact ⟨{ alike with onEvict := .same _ }, rfl⟩
  | onCheck verdict => exact ⟨{ alike with check := .inl rfl }, rfl⟩
  | purge => exact ⟨alike.enter .purge (by simp), rfl⟩
  | close => exact ⟨alike.close, rfl⟩
  | isClosed =>
      refine ⟨alike, ?_⟩
      simp only [alike.store]

end Alike

/-! ## Scripts -/

/-- Whether a write would make a new entry. -/
def admits (cache : Cache K V H) (key : K) : Bool :=
  !cache.store.closed && (cache.store.index.find? key).isNone

/-- Whether a call makes a new entry. -/
def makesEntry (cache : Cache K V H) : Call K V H → Bool
  | .set key _ _ => cache.clock.now.isOk && cache.admits key
  | _ => false

/--
Calls keep caches alike.  They have the same answers, but one that makes a new
entry fails where only the cache on the left has a handler to be told of it.
-/
structure KeepsAlike (script : H → K → V → Script K V H) (same : Bool)
    (perform : Call K V H → Cache K V H → Cache K V H × Except Fault (Answer K V)) : Prop where
  reached : ∀ {loud quiet : Cache K V H}, Alike script same loud quiet → ∀ call,
    Alike script same (perform call loud).1 (perform call quiet).1
  answered : ∀ {loud quiet : Cache K V H}, Alike script same loud quiet → ∀ call,
    loud.handlers.onInsert = quiet.handlers.onInsert ∨ quiet.makesEntry call = false →
      (perform call loud).2 = (perform call quiet).2
  failed : ∀ {loud quiet : Cache K V H}, Alike script same loud quiet → ∀ call,
    loud.handlers.onInsert ≠ quiet.handlers.onInsert → quiet.makesEntry call = true →
      ∃ fault, (perform call loud).2 = .error fault

end Cache

namespace Script

variable {K V H : Type} [DecidableEq K]

/--
In this run the script does nothing but leave notes once it has made an entry that
no handler is told of.
-/
def AddsLast (failure : Fault)
    (perform : Call K V H → Cache K V H → Cache K V H × Except Fault (Answer K V)) :
    Script K V H → Cache K V H → Prop
  | .done, _ => True
  | .fail, _ => True
  | .note event rest, cache => rest.AddsLast failure perform (cache.record [event])
  | .call request next, cache =>
      match perform request cache with
      | (_, .error _) => True
      | (reached, .ok answer) =>
          if cache.handlers.onInsert.isNone && cache.makesEntry request then
            ∃ events, ((next answer).run failure perform reached).1 = reached.record events
          else (next answer).AddsLast failure perform reached

theorem addsLast_of_failing {told : Script K V H} (fails : told.isFailing = true) (failure : Fault)
    (perform : Call K V H → Cache K V H → Cache K V H × Except Fault (Answer K V))
    (cache : Cache K V H) : told.AddsLast failure perform cache := by
  induction told generalizing cache with
  | done => trivial
  | fail => trivial
  | note event rest ih => exact ih fails (cache.record [event])
  | call request next ih => cases fails

namespace AddsLast

variable {failure : Fault}
  {perform : Call K V H → Cache K V H → Cache K V H × Except Fault (Answer K V)}
  {request : Call K V H} {next : Answer K V → Script K V H} {cache : Cache K V H}

theorem call
    (notes : cache.makesEntry request = true → ∀ answer (reached : Cache K V H), ∃ events,
      ((next answer).run failure perform reached).1 = reached.record events)
    (later : ∀ answer reached, (next answer).AddsLast failure perform reached) :
    (Script.call request next).AddsLast failure perform cache := by
  rw [AddsLast]
  split
  · trivial
  · split
    · rename_i adds
      exact notes (Bool.and_eq_true_iff.mp adds).2 _ _
    · exact later _ _

theorem of_added (last : (Script.call request next).AddsLast failure perform cache)
    (untold : cache.handlers.onInsert = none) (makes : cache.makesEntry request = true) :
    ∃ events, ((Script.call request next).run failure perform cache).1 =
      (perform request cache).1.record events := by
  rw [AddsLast, untold, makes] at last
  rw [run]
  generalize perform request cache = performed at last ⊢
  obtain ⟨reached, outcome⟩ := performed
  cases outcome with
  | error fault => exact ⟨[], reached.record_nil.symm⟩
  | ok answer => exact last

theorem goes_on (last : (Script.call request next).AddsLast failure perform cache)
    (adds : cache.makesEntry request = false) {answer : Answer K V}
    (answered : (perform request cache).2 = .ok answer) :
    (next answer).AddsLast failure perform (perform request cache).1 := by
  rw [AddsLast, adds, Bool.and_false] at last
  generalize perform request cache = performed at last answered ⊢
  obtain ⟨reached, outcome⟩ := performed
  obtain rfl : outcome = .ok answer := answered
  exact last

end AddsLast

end Script

namespace Cache

variable {K V H : Type} [DecidableEq K] {script : H → K → V → Script K V H}

namespace Alike

variable {loud quiet : Cache K V H}
  {perform : Call K V H → Cache K V H → Cache K V H × Except Fault (Answer K V)}

/-- Under the same handler of new entries, a script does and meets the same. -/
theorem run_same (keeps : KeepsAlike script true perform) (failure : Fault) (told : Script K V H)
    (alike : Alike script true loud quiet) :
    Alike script true (told.run failure perform loud).1 (told.run failure perform quiet).1 ∧
      (told.run failure perform loud).2 = (told.run failure perform quiet).2 := by
  induction told generalizing loud quiet with
  | done => exact ⟨alike, rfl⟩
  | fail => exact ⟨alike, rfl⟩
  | note event rest ih => exact ih (alike.record [event] [event])
  | call request next ih =>
      have reached := keeps.reached alike request
      have answered := keeps.answered alike request (.inl (alike.kept rfl))
      obtain ⟨fault, left, right⟩ | ⟨answer, -, left, right⟩ :=
        Script.run_call_of_same answered failure next
      · rw [left, right]
        exact ⟨reached, rfl⟩
      · rw [left, right]
        exact ih answer reached

/-- A script that adds last does the same, even where an addition makes it end. -/
theorem run_addsLast (keeps : ∀ same, KeepsAlike script same perform) (failure : Fault)
    {told : Script K V H} (last : told.AddsLast failure perform quiet)
    (alike : Alike script false loud quiet) :
    Alike script false (told.run failure perform loud).1 (told.run failure perform quiet).1 := by
  induction told generalizing loud quiet with
  | done => exact alike
  | fail => exact alike
  | note event rest ih => exact ih last (alike.record [event] [event])
  | call request next ih =>
      by_cases kept : loud.handlers.onInsert = quiet.handlers.onInsert
      · exact (run_same (keeps true) failure (.call request next) (alike.remember kept)).1.weaken _
      have reached := (keeps false).reached alike request
      cases makes : quiet.makesEntry request with
      -- The call ends the script on the left only, but on the right nothing is left to be done.
      | true =>
          obtain ⟨handler, -, -, untold⟩ := alike.onInsert.failing_of_ne kept
          obtain ⟨fault, failed⟩ := (keeps false).failed alike request kept makes
          obtain ⟨events, noted⟩ := last.of_added untold makes
          rw [Script.run_call_of_error failed, noted]
          exact reached.recordRight events
      | false =>
          have same := (keeps false).answered alike request (.inr makes)
          obtain ⟨fault, left, right⟩ | ⟨answer, answered, left, right⟩ :=
            Script.run_call_of_same same failure next
          · rw [left, right]
            exact reached
          · rw [left, right]
            exact ih answer (last.goes_on makes answered) reached

end Alike

/-! ## Writes -/

theorem writeAt_snd (cache : Cache K V H) (key : K) (value : V) (lifetime : Lifetime)
    (now : Instant) : (cache.writeAt key value lifetime now).2 =
      if cache.admits key then cache.handlers.onInsert else none := by
  rw [writeAt, admits]
  by_cases closed : cache.store.closed = true
  · rw [if_pos closed, closed]
    rfl
  · rw [if_neg closed, eq_false_of_ne_true closed]
    exact congrArg (fun isNew : Bool => if isNew then cache.handlers.onInsert else none)
      (congrArg (fun wrote => wrote.2.isNew) (cache.store.write_eq key value lifetime now))

theorem perform_set_of_fault (script : H → K → V → Script K V H) (depth : Nat)
    {cache : Cache K V H} {fault : Fault} (unread : cache.clock.now = .error fault) (key : K)
    (value : V) (lifetime : Lifetime) :
    cache.perform script depth (.set key value lifetime) = (cache, .error fault) := by
  rw [perform, atReading, unread]

theorem perform_set_of_none (script : H → K → V → Script K V H) (depth : Nat)
    {cache : Cache K V H} {now : Instant} (reading : cache.clock.now = .ok now) {key : K}
    {value : V} {lifetime : Lifetime} (untold : (cache.writeAt key value lifetime now).2 = none) :
    cache.perform script depth (.set key value lifetime) =
      ((cache.writeAt key value lifetime now).1, .ok .done) := by
  rw [perform, atReading, reading]
  cases wrote : cache.writeAt key value lifetime now with
  | mk written told =>
      rw [wrote] at untold
      obtain rfl : told = none := untold
      simp only [wrote]

theorem perform_set_of_some (script : H → K → V → Script K V H) (depth : Nat)
    {cache : Cache K V H} {now : Instant} (reading : cache.clock.now = .ok now) {key : K}
    {value : V} {lifetime : Lifetime} {handler : H}
    (told : (cache.writeAt key value lifetime now).2 = some handler) :
    cache.perform script depth (.set key value lifetime) =
      match depth with
      | 0 => ((cache.writeAt key value lifetime now).1, .error .nestingTooDeep)
      | inner + 1 =>
          let ran := (script handler key value).run .insertHandlerFailed (perform script inner)
            ((cache.writeAt key value lifetime now).1.record [.inserted key value])
          (ran.1, ran.2.map fun _ => .done) := by
  rw [perform, atReading, reading]
  cases wrote : cache.writeAt key value lifetime now with
  | mk written informed =>
      rw [wrote] at told
      obtain rfl : informed = some handler := told
      cases depth with
      | zero => simp only [wrote]
      | succ inner => simp only [wrote]

/-- A write whose handler fails is done all the same. -/
theorem perform_set_of_failing {handler : H}
    (fails : ∀ key value, (script handler key value).isFailing = true) (depth : Nat)
    {cache : Cache K V H} {now : Instant} (reading : cache.clock.now = .ok now) {key : K}
    {value : V} {lifetime : Lifetime}
    (told : (cache.writeAt key value lifetime now).2 = some handler) :
    ∃ events, cache.perform script depth (.set key value lifetime) =
      ((cache.writeAt key value lifetime now).1.record events,
        .error (if depth = 0 then .nestingTooDeep else .insertHandlerFailed)) := by
  rw [perform_set_of_some script depth reading told]
  cases depth with
  | zero => exact ⟨[], by rw [record_nil, if_pos rfl]⟩
  | succ inner =>
      obtain ⟨events, ran⟩ := Script.run_of_failing (fails key value) .insertHandlerFailed
        (perform script inner)
        ((cache.writeAt key value lifetime now).1.record [.inserted key value])
      refine ⟨[.inserted key value] ++ events, ?_⟩
      simp only [ran, record_record]
      rfl

namespace Alike

variable {same : Bool} {loud quiet : Cache K V H}

theorem admits_eq (alike : Alike script same loud quiet) (key : K) :
    loud.admits key = quiet.admits key := by
  rw [admits, admits, alike.store]

theorem write (alike : Alike script same loud quiet) (key : K) (value : V) (lifetime : Lifetime)
    (now : Instant) :
    Alike script same (loud.writeAt key value lifetime now).1
      (quiet.writeAt key value lifetime now).1 :=
  alike.enter (.write key value lifetime now) (by simp)

theorem told_eq (alike : Alike script true loud quiet) (key : K) (value : V)
    (lifetime : Lifetime) (now : Instant) :
    (loud.writeAt key value lifetime now).2 = (quiet.writeAt key value lifetime now).2 := by
  rw [writeAt_snd, writeAt_snd, alike.admits_eq, alike.kept rfl]

end Alike

theorem KeepsAlike.of_same
    {perform : Call K V H → Cache K V H → Cache K V H × Except Fault (Answer K V)}
    (each : ∀ {loud quiet : Cache K V H}, Alike script true loud quiet → ∀ call,
      Alike script true (perform call loud).1 (perform call quiet).1 ∧
        (perform call loud).2 = (perform call quiet).2) : KeepsAlike script true perform where
  reached alike call := (each alike call).1
  answered alike call _ := (each alike call).2
  failed alike _ differ := absurd (alike.kept rfl) differ

/-- Under the same handler of new entries, calls do and answer the same. -/
theorem Alike.perform_same (depth : Nat) {loud quiet : Cache K V H}
    (alike : Alike script true loud quiet) (call : Call K V H) :
    Alike script true (loud.perform script depth call).1 (quiet.perform script depth call).1 ∧
      (loud.perform script depth call).2 = (quiet.perform script depth call).2 := by
  -- On the depth: the handler that a write tells runs its calls one level deeper.
  induction depth using Nat.strongRecOn generalizing loud quiet call with
  | ind depth ih =>
      cases call with
      | set key value lifetime =>
          cases reading : quiet.clock.now with
          | error fault =>
              rw [perform_set_of_fault script depth (alike.clock ▸ reading),
                perform_set_of_fault script depth reading]
              exact ⟨alike, rfl⟩
          | ok now =>
              have written := alike.write key value lifetime now
              have informed := alike.told_eq key value lifetime now
              cases told : (quiet.writeAt key value lifetime now).2 with
              | none =>
                  rw [perform_set_of_none script depth (alike.clock ▸ reading)
                    (informed.trans told), perform_set_of_none script depth reading told]
                  exact ⟨written, rfl⟩
              | some handler =>
                  rw [perform_set_of_some script depth (alike.clock ▸ reading)
                    (informed.trans told), perform_set_of_some script depth reading told]
                  cases depth with
                  | zero => exact ⟨written, rfl⟩
                  | succ inner =>
                      have keeps : KeepsAlike script true (perform script inner) :=
                        .of_same (ih inner (Nat.lt_succ_self inner))
                      obtain ⟨reached, same⟩ := Alike.run_same keeps .insertHandlerFailed
                        (script handler key value)
                        (written.record [.inserted key value] [.inserted key value])
                      exact ⟨reached, congrArg (Except.map fun _ => Answer.done) same⟩
      | _ => exact alike.plain depth (by rintro _ _ _ ⟨⟩)

/--
Where a failing handler of new entries is missing on the right, a write does the
same and fails on the left if it makes a new entry.
-/
theorem Alike.set_of_failing {same : Bool} {loud quiet : Cache K V H}
    (alike : Alike script same loud quiet) {handler : H}
    (fails : ∀ key value, (script handler key value).isFailing = true)
    (here : loud.handlers.onInsert = some handler) (there : quiet.handlers.onInsert = none)
    (depth : Nat) (key : K) (value : V) (lifetime : Lifetime) :
    let failed := loud.perform script depth (.set key value lifetime)
    let passed := quiet.perform script depth (.set key value lifetime)
    Alike script same failed.1 passed.1 ∧
      failed.2 = if loud.clock.now.isOk && loud.admits key then
        .error (if depth = 0 then .nestingTooDeep else .insertHandlerFailed) else passed.2 := by
  intro failed passed
  cases reading : quiet.clock.now with
  | error fault =>
      have unread : loud.clock.now = .error fault := alike.clock ▸ reading
      have left : failed = (loud, .error fault) :=
        perform_set_of_fault script depth unread key value lifetime
      have right : passed = (quiet, .error fault) :=
        perform_set_of_fault script depth reading key value lifetime
      rw [left, right, unread]
      exact ⟨alike, rfl⟩
  | ok now =>
      have read : loud.clock.now = .ok now := alike.clock ▸ reading
      have written := alike.write key value lifetime now
      have right : passed = ((quiet.writeAt key value lifetime now).1, .ok .done) :=
        perform_set_of_none script depth reading (by rw [writeAt_snd, there, ite_self])
      cases admitted : loud.admits key with
      | false =>
          have left : failed = ((loud.writeAt key value lifetime now).1, .ok .done) :=
            perform_set_of_none script depth read (by rw [writeAt_snd, admitted]; rfl)
          rw [left, right, Bool.and_false]
          exact ⟨written, rfl⟩
      | true =>
          obtain ⟨events, left⟩ := perform_set_of_failing fails depth read
            (show (loud.writeAt key value lifetime now).2 = some handler by
              rw [writeAt_snd, admitted, if_pos rfl, here])
          rw [show failed = _ from left, right, read]
          exact ⟨written.recordLeft events, rfl⟩

/--
Where a failing handler of new entries is missing on the right, calls do the same
and have the same answers, but one that makes a new entry fails on the left.
-/
theorem Alike.perform_differing {same : Bool} {loud quiet : Cache K V H}
    (alike : Alike script same loud quiet)
    (differ : loud.handlers.onInsert ≠ quiet.handlers.onInsert) (depth : Nat) (call : Call K V H) :
    Alike script same (loud.perform script depth call).1 (quiet.perform script depth call).1 ∧
      (loud.perform script depth call).2 = if quiet.makesEntry call then
        .error (if depth = 0 then .nestingTooDeep else .insertHandlerFailed)
      else (quiet.perform script depth call).2 := by
  obtain ⟨handler, fails, here, there⟩ := alike.onInsert.failing_of_ne differ
  cases call with
  | set key value lifetime =>
      obtain ⟨reached, ends⟩ := alike.set_of_failing fails here there depth key value lifetime
      rw [alike.clock, alike.admits_eq] at ends
      exact ⟨reached, ends⟩
  | _ => exact alike.plain depth (by rintro _ _ _ ⟨⟩)

/-- Calls treat caches alike. -/
theorem keepsAlike (script : H → K → V → Script K V H) (depth : Nat) (same : Bool) :
    KeepsAlike script same (perform script depth) where
  reached {loud quiet} alike call := by
    by_cases kept : loud.handlers.onInsert = quiet.handlers.onInsert
    · exact ((alike.remember kept).perform_same depth call).1.weaken same
    · exact (alike.perform_differing kept depth call).1
  answered {loud quiet} alike call unaffected := by
    by_cases kept : loud.handlers.onInsert = quiet.handlers.onInsert
    · exact ((alike.remember kept).perform_same depth call).2
    · obtain ⟨-, ends⟩ := alike.perform_differing kept depth call
      rw [unaffected.resolve_left kept] at ends
      exact ends
  failed {loud quiet} alike call differ makes := by
    obtain ⟨-, ends⟩ := alike.perform_differing differ depth call
    rw [makes] at ends
    exact ⟨_, ends⟩

/-! ## Passes -/

theorem announceEvicted_of_failing {handler : H}
    (fails : ∀ key value, (script handler key value).isFailing = true) (depth : Nat)
    (batch : List (K × V)) (cache : Cache K V H) :
    ∃ events, cache.announceEvicted script depth handler batch = cache.record events := by
  refine announceEvicted_of_recording depth (fun key value cache => ?_) batch cache
  obtain ⟨events, ran⟩ := Script.run_of_failing (fails key value) .evictHandlerFailed
    (perform script depth) cache
  exact ⟨events, congrArg Prod.fst ran⟩

/-- The scripts for a batch of evicted pairs add last, each in its turn. -/
def AnnouncesAddingLast (script : H → K → V → Script K V H) (depth : Nat) (handler : H) :
    List (K × V) → Cache K V H → Prop
  | [], _ => True
  | (key, value) :: rest, cache =>
      let told := cache.record [.evicted key value]
      (script handler key value).AddsLast .evictHandlerFailed (perform script depth) told ∧
        AnnouncesAddingLast script depth handler rest
          ((script handler key value).run .evictHandlerFailed (perform script depth) told).1

/-- In this pass the handler of evicted entries adds last. -/
def SweepsAddingLast (script : H → K → V → Script K V H) (depth : Nat) (cache : Cache K V H) :
    Prop :=
  ∀ now, cache.clock.now = .ok now → ∀ handler,
    (cache.sweepAt now).1.handlers.onEvict = some handler →
      (cache.sweepAt now).1.AnnouncesAddingLast script depth handler (cache.sweepAt now).2

/--
In the pass that an action may be, the handler of evicted entries adds last,
whether or not the sweeper has taken the wake-up before.
-/
def ActsAddingLast (script : H → K → V → Script K V H) (depth : Nat) (cache : Cache K V H)
    (clock : Clock) : Action K V H → Prop
  | .sweep => ∀ wake, { cache with clock, wake }.SweepsAddingLast script depth
  | _ => True

/-- In all passes of a session, handlers of evicted entries add last. -/
def AddsLast (script : H → K → V → Script K V H) (depth : Nat) :
    List (Clock × Action K V H) → Cache K V H → Prop
  | [], _ => True
  | step :: rest, cache => cache.ActsAddingLast script depth step.1 step.2 ∧
      (cache.act script depth step.1 step.2).AddsLast script depth rest

theorem addsLast_append {depth : Nat} {early late : List (Clock × Action K V H)}
    {cache : Cache K V H} : cache.AddsLast script depth (early ++ late) ↔
      cache.AddsLast script depth early ∧
        (cache.actAll script depth early).AddsLast script depth late := by
  induction early generalizing cache with
  | nil => exact (and_iff_right trivial).symm
  | cons step rest ih =>
      rw [List.cons_append, AddsLast, AddsLast, ih, and_assoc]
      rfl

theorem addsLast_of_scripts {depth : Nat}
    (each : ∀ handler key value cache,
      (script handler key value).AddsLast .evictHandlerFailed (perform script depth) cache)
    (session : List (Clock × Action K V H)) (cache : Cache K V H) :
    cache.AddsLast script depth session := by
  have announces (handler : H) (batch : List (K × V)) (cache : Cache K V H) :
      cache.AnnouncesAddingLast script depth handler batch := by
    induction batch generalizing cache with
    | nil => trivial
    | cons pair rest ih => exact ⟨each handler pair.1 pair.2 _, ih _⟩
  induction session generalizing cache with
  | nil => trivial
  | cons step rest ih =>
      obtain ⟨clock, action⟩ := step
      refine ⟨?_, ih _⟩
      cases action with
      | sweep => exact fun _ _ _ handler _ => announces handler _ _
      | _ => trivial

namespace Alike

variable {same : Bool} {loud quiet : Cache K V H}

theorem sweepAt (alike : Alike script same loud quiet) (now : Instant) :
    Alike script same (loud.sweepAt now).1 (quiet.sweepAt now).1 ∧
      (loud.sweepAt now).2 = (quiet.sweepAt now).2 := by
  have stores := alike.store
  obtain checks | ⟨left, right⟩ := alike.check
  · rw [Cache.sweepAt, Cache.sweepAt, stores, checks]
    exact ⟨{ alike with store := rfl, check := .inl rfl }, rfl⟩
  · obtain ⟨leftLater, leftStore, leftEvicted⟩ :=
      quiet.store.sweep_of_permissive left now
    obtain ⟨rightLater, rightStore, rightEvicted⟩ :=
      quiet.store.sweep_of_permissive right now
    rw [Cache.sweepAt, Cache.sweepAt, stores]
    refine ⟨{ alike with store := ?_, check := .inr ⟨leftLater, rightLater⟩ }, ?_⟩
    · exact leftStore.trans rightStore.symm
    · exact leftEvicted.trans rightEvicted.symm

theorem announceEvicted (depth : Nat) (handler : H) (batch : List (K × V))
    (alike : Alike script same loud quiet)
    (careful : same = true ∨ quiet.AnnouncesAddingLast script depth handler batch) :
    Alike script same (loud.announceEvicted script depth handler batch)
      (quiet.announceEvicted script depth handler batch) := by
  induction batch generalizing loud quiet with
  | nil => exact alike
  | cons pair rest ih =>
      obtain ⟨key, value⟩ := pair
      have told := alike.record [.evicted key value] [.evicted key value]
      have keeps := keepsAlike script depth
      cases same with
      | true =>
          exact ih (run_same (keeps true) .evictHandlerFailed (script handler key value) told).1
            (.inl rfl)
      | false =>
          obtain ⟨last, later⟩ := careful.resolve_left Bool.false_ne_true
          exact ih (run_addsLast keeps .evictHandlerFailed last told) (.inr later)

/-- A pass does the same and evicts as many. -/
theorem sweep (depth : Nat) (alike : Alike script same loud quiet)
    (careful : same = true ∨ quiet.SweepsAddingLast script depth) :
    Alike script same (loud.sweep script depth).1 (quiet.sweep script depth).1 ∧
      (loud.sweep script depth).2 = (quiet.sweep script depth).2 := by
  unfold Cache.sweep
  apply alike.atReading
  intro now reading
  obtain ⟨swept, batch⟩ := alike.sweepAt now
  have heedful := careful.imp_right fun last => last now reading
  generalize loud.sweepAt now = left at swept batch
  generalize quiet.sweepAt now = right at swept batch heedful
  obtain ⟨loudly, evicted⟩ := left
  obtain ⟨quietly, others⟩ := right
  obtain rfl : evicted = others := batch
  have told := swept.onEvict
  dsimp only at swept told heedful ⊢
  generalize loudly.handlers.onEvict = left at told
  generalize quietly.handlers.onEvict = right at told heedful
  cases told with
  | same =>
      cases left with
      | none => exact ⟨swept, rfl⟩
      | some handler =>
          have careful := heedful.imp_right fun last => last handler rfl
          exact ⟨swept.announceEvicted depth handler evicted careful, rfl⟩
  | failing fails =>
      obtain ⟨events, announced⟩ := announceEvicted_of_failing fails depth evicted loudly
      refine ⟨?_, rfl⟩
      dsimp only
      rw [announced]
      exact swept.recordLeft events

omit [DecidableEq K] in
theorem planSleep (alike : Alike script same loud quiet) :
    Alike script same loud.planSleep.1 quiet.planSleep.1 ∧
      loud.planSleep.2 = quiet.planSleep.2 := by
  apply alike.atReading
  intro now reading
  rw [planSleepAt, planSleepAt, alike.store]
  exact ⟨{ alike with store := rfl }, rfl⟩

/-! ## Sessions -/

theorem act (depth : Nat) (alike : Alike script same loud quiet) (clock : Clock)
    (action : Action K V H)
    (careful : same = true ∨ quiet.ActsAddingLast script depth clock action) :
    Alike script same (loud.act script depth clock action)
      (quiet.act script depth clock action) := by
  have began : Alike script same { loud with clock } { quiet with clock } :=
    { alike with clock := rfl }
  cases action with
  | call call => exact (keepsAlike script depth same).reached began call
  | planSleep => exact began.planSleep.1
  | sweep => exact (began.sweep depth (careful.imp_right fun last => last quiet.wake)).1

theorem actAll (depth : Nat) (session : List (Clock × Action K V H))
    (alike : Alike script same loud quiet)
    (careful : same = true ∨ quiet.AddsLast script depth session) :
    Alike script same (loud.actAll script depth session) (quiet.actAll script depth session) := by
  induction session generalizing loud quiet with
  | nil => exact alike
  | cons step rest ih =>
      exact ih (alike.act depth step.1 step.2 (careful.imp_right And.left))
        (careful.imp_right And.right)

end Alike

end Cache

end ExpiringCache
