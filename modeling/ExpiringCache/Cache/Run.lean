import ExpiringCache.Cache

/-!
# Running calls

A call reads the clock if it needs the time, runs its critical section and
then, outside of it, the handler of a new entry.  A handler may call the cache
again; `depth` is how deeply handlers of new entries may nest.  A fault ends
the call and every handler around it, but what was done before it stays done.
-/

namespace ExpiringCache

namespace Script

variable {K V H : Type} [DecidableEq K]

def run (failure : Fault)
    (perform : Call K V H → Cache K V H → Cache K V H × Except Fault (Answer K V)) :
    Script K V H → Cache K V H → Cache K V H × Except Fault Unit
  | .done, cache => (cache, .ok ())
  | .fail, cache => (cache, .error failure)
  | .note event rest, cache => rest.run failure perform (cache.record [event])
  | .call request next, cache =>
      match perform request cache with
      | (reached, .error fault) => (reached, .error fault)
      | (reached, .ok answer) => (next answer).run failure perform reached

end Script

namespace Cache

variable {K V H : Type} [DecidableEq K]

def atReading {α : Type} (cache : Cache K V H)
    (body : Instant → Cache K V H × Except Fault α) : Cache K V H × Except Fault α :=
  match cache.clock.now with
  | .error fault => (cache, .error fault)
  | .ok now => body now

/--
Performs a call.  `script` says what the named handlers do.
-/
def perform (script : H → K → V → Script K V H) (depth : Nat) (call : Call K V H)
    (cache : Cache K V H) : Cache K V H × Except Fault (Answer K V) :=
  match call with
  | .set key value lifetime =>
      cache.atReading fun now =>
        match cache.writeAt key value lifetime now with
        | (written, none) => (written, .ok .done)
        | (written, some handler) =>
            match depth with
            | 0 => (written, .error .nestingTooDeep)
            | inner + 1 =>
                let (reached, outcome) :=
                  (script handler key value).run .insertHandlerFailed (perform script inner)
                    (written.record [.inserted key value])
                (reached, outcome.map fun _ => .done)
  | .get key =>
      cache.atReading fun now =>
        let (reached, lease) := cache.readAt key now
        (reached, .ok (.value (lease.map (·.1))))
  | .getLease key =>
      cache.atReading fun now =>
        let (reached, lease) := cache.readAt key now
        (reached, .ok (.lease lease))
  | .touch key =>
      cache.atReading fun now =>
        let (reached, live) := cache.touchAt key now
        (reached, .ok (.flag live))
  | .remove key =>
      let (reached, present) := cache.remove key
      (reached, .ok (.flag present))
  | .count => (cache, .ok (.number cache.store.count))
  | .keys => cache.atReading fun now => (cache, .ok (.keys (cache.store.liveKeys now)))
  | .counters => (cache, .ok (.counters cache.store.counters))
  | .setSharedLifetime duration => (cache.setSharedLifetime duration, .ok .done)
  | .skipRenewal skip => (cache.setSkipRenewal skip, .ok .done)
  | .onInsert handler =>
      ({ cache with handlers := { cache.handlers with onInsert := some handler } }, .ok .done)
  | .onEvict handler =>
      ({ cache with handlers := { cache.handlers with onEvict := some handler } }, .ok .done)
  | .onCheck verdict =>
      ({ cache with handlers := { cache.handlers with check := some { verdict } } }, .ok .done)
  | .purge => (cache.purge, .ok .done)
  | .close => (cache.close, .ok .done)
  | .isClosed => (cache, .ok (.flag cache.store.closed))

/-- Tells a handler of evicted pairs, one after the other; its faults are caught. -/
def announceEvicted (script : H → K → V → Script K V H) (depth : Nat) (handler : H) :
    List (K × V) → Cache K V H → Cache K V H
  | [], cache => cache
  | (key, value) :: rest, cache =>
      announceEvicted script depth handler rest
        ((script handler key value).run .evictHandlerFailed (perform script depth)
          (cache.record [.evicted key value])).1

/--
One pass of the sweeper.  The handler installed at the time of the pass is told
of every evicted pair once the whole batch is out.  Returns the batch size.
-/
def sweep (script : H → K → V → Script K V H) (depth : Nat) (cache : Cache K V H) :
    Cache K V H × Except Fault Nat :=
  cache.atReading fun now =>
    let (swept, batch) := cache.sweepAt now
    match swept.handlers.onEvict with
    | none => (swept, .ok batch.length)
    | some handler => (swept.announceEvicted script depth handler batch, .ok batch.length)

def planSleep (cache : Cache K V H) : Cache K V H × Except Fault Duration :=
  cache.atReading fun now =>
    let (planned, sleep) := cache.planSleepAt now
    (planned, .ok sleep)

def advance (cache : Cache K V H) (duration : Duration) : Cache K V H × Except Fault Unit :=
  match cache.clock.advance duration with
  | .ok clock => ({ cache with clock }, .ok ())
  | .error fault => (cache, .error fault)

end Cache

end ExpiringCache
