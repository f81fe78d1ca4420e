import ExpiringCache.Cache.Run

/-!
# Sections

A cache that many threads use changes by one critical section at a time.  The
sections may come in any order, and each brings a reading of the clock that was
taken before it got the lock, so the readings of successive sections need not
ascend.  Calls, handlers and passes of the sweeper are sequences of sections;
the trail of a call lists the states in which it leaves the lock free.
-/

namespace ExpiringCache

/--
An indivisible step of a client or a handler: a critical section with the
reading of the clock that it brings, a note on the record, or a move of the
clock.
-/
inductive Section (K V H : Type) where
  | write (key : K) (value : V) (lifetime : Lifetime) (now : Instant)
  | read (key : K) (now : Instant)
  | touch (key : K) (now : Instant)
  | remove (key : K)
  | setSharedLifetime (duration : Duration)
  | setSkipRenewal (skip : Bool)
  | install (handlers : Handlers K V H)
  | purge
  | markClosed
  | note (events : List (Event K V))
  | moveClock (clock : Clock)

/-- What can happen to a cache between two states with the lock free. -/
inductive Change (K V H : Type) where
  | client (entered : Section K V H)
  | planSleep (now : Instant)
  | sweep (now : Instant)
  | takeWake

namespace Cache

variable {K V H : Type} [DecidableEq K]

/-- The cache after a step of a client. -/
def enter (cache : Cache K V H) : Section K V H → Cache K V H
  | .write key value lifetime now => (cache.writeAt key value lifetime now).1
  | .read key now => (cache.readAt key now).1
  | .touch key now => (cache.touchAt key now).1
  | .remove key => (cache.remove key).1
  | .setSharedLifetime duration => cache.setSharedLifetime duration
  | .setSkipRenewal skip => cache.setSkipRenewal skip
  | .install handlers => { cache with handlers }
  | .purge => cache.purge
  | .markClosed => cache.markClosed.1
  | .note events => cache.record events
  | .moveClock clock => { cache with clock }

def after (cache : Cache K V H) : Change K V H → Cache K V H
  | .client entered => cache.enter entered
  | .planSleep now => (cache.planSleepAt now).1
  | .sweep now => (cache.sweepAt now).1
  | .takeWake => cache.takeWake.1

def afterAll (cache : Cache K V H) (changes : List (Change K V H)) : Cache K V H :=
  changes.foldl after cache

/-- A state that steps of clients lead to. -/
def Reaches (cache state : Cache K V H) : Prop :=
  ∃ entered, List.foldl enter cache entered = state

namespace Reaches

theorem refl (cache : Cache K V H) : cache.Reaches cache := ⟨[], rfl⟩

theorem trans {first second third : Cache K V H} (early : first.Reaches second)
    (late : second.Reaches third) : first.Reaches third := by
  obtain ⟨before, rfl⟩ := early
  obtain ⟨behind, rfl⟩ := late
  exact ⟨before ++ behind, by simp⟩

theorem enter (cache : Cache K V H) (entered : Section K V H) :
    cache.Reaches (cache.enter entered) :=
  ⟨[entered], rfl⟩

theorem record (cache : Cache K V H) (events : List (Event K V)) :
    cache.Reaches (cache.record events) :=
  .enter cache (.note events)

/-- A property that every step of a client keeps holds in every state that is reached. -/
theorem keeps {P : Cache K V H → Prop}
    (step : ∀ cache entered, P cache → P (Cache.enter cache entered))
    {cache state : Cache K V H} (reached : cache.Reaches state) (start : P cache) : P state := by
  obtain ⟨steps, rfl⟩ := reached
  induction steps generalizing cache with
  | nil => exact start
  | cons entered rest ih => exact ih (step cache entered start)

end Reaches

omit [DecidableEq K] in
/-- What holds of a cache and after a section at any time holds after one at the reading. -/
theorem atReading_keeps {α : Type} {P : Cache K V H → Prop} {cache : Cache K V H}
    {body : Instant → Cache K V H × Except Fault α} (still : P cache)
    (each : ∀ now, P (body now).1) : P (cache.atReading body).1 := by
  unfold atReading
  cases cache.clock.now with
  | error fault => exact still
  | ok now => exact each now

end Cache

/-! ## Trails -/

namespace Script

variable {K V H : Type} [DecidableEq K]

/--
The states in which a script leaves the lock free, its first state included.
`passed` lists those of a call.
-/
def trail (perform : Call K V H → Cache K V H → Cache K V H × Except Fault (Answer K V))
    (passed : Call K V H → Cache K V H → List (Cache K V H)) :
    Script K V H → Cache K V H → List (Cache K V H)
  | .done, cache => [cache]
  | .fail, cache => [cache]
  | .note event rest, cache => cache :: rest.trail perform passed (cache.record [event])
  | .call request next, cache =>
      cache :: passed request cache ++
        match perform request cache with
        | (_, .error _) => []
        | (reached, .ok answer) => (next answer).trail perform passed reached

end Script

/-- What clients and the sweeper make a cache do. -/
inductive Action (K V H : Type) where
  | call (call : Call K V H)
  | planSleep
  | sweep

namespace Cache

variable {K V H : Type} [DecidableEq K]

/-- The states in which a call leaves the lock free, those its handlers see included. -/
def callTrail (script : H → K → V → Script K V H) (depth : Nat) (call : Call K V H)
    (cache : Cache K V H) : List (Cache K V H) :=
  match call with
  | .set key value lifetime =>
      match cache.clock.now with
      | .error _ => [cache]
      | .ok now =>
          match cache.writeAt key value lifetime now with
          | (written, none) => [written]
          | (written, some handler) =>
              match depth with
              | 0 => [written]
              | inner + 1 =>
                  written :: (script handler key value).trail (perform script inner)
                    (callTrail script inner) (written.record [.inserted key value])
  | .close => [cache.markClosed.1, cache.close]
  | call => [(cache.perform script depth call).1]

def evictedTrail (script : H → K → V → Script K V H) (depth : Nat) (handler : H) :
    List (K × V) → Cache K V H → List (Cache K V H)
  | [], cache => [cache]
  | (key, value) :: rest, cache =>
      (script handler key value).trail (perform script depth) (callTrail script depth)
          (cache.record [.evicted key value]) ++
        evictedTrail script depth handler rest
          ((script handler key value).run .evictHandlerFailed (perform script depth)
            (cache.record [.evicted key value])).1

/-- The cache after an action that begins when the clock stands as given. -/
def act (script : H → K → V → Script K V H) (depth : Nat) (cache : Cache K V H)
    (clock : Clock) : Action K V H → Cache K V H
  | .call call => ({ cache with clock }.perform script depth call).1
  | .planSleep => { cache with clock }.planSleep.1
  | .sweep => ({ cache with clock }.sweep script depth).1

/-- The states in which an action leaves the lock free. -/
def actTrail (script : H → K → V → Script K V H) (depth : Nat) (cache : Cache K V H)
    (clock : Clock) : Action K V H → List (Cache K V H)
  | .call call => { cache with clock }.callTrail script depth call
  | .planSleep => [{ cache with clock }.planSleep.1]
  | .sweep =>
      match clock.now with
      | .error _ => [{ cache with clock }]
      | .ok now =>
          let (swept, batch) := { cache with clock }.sweepAt now
          swept :: (swept.handlers.onEvict.toList.flatMap fun handler =>
            swept.evictedTrail script depth handler batch)

/-- All states with the lock free during a sequence of actions. -/
def sessionTrail (script : H → K → V → Script K V H) (depth : Nat) :
    List (Clock × Action K V H) → Cache K V H → List (Cache K V H)
  | [], cache => [cache]
  | (clock, action) :: rest, cache =>
      cache :: cache.actTrail script depth clock action ++
        sessionTrail script depth rest (cache.act script depth clock action)

end Cache

end ExpiringCache
