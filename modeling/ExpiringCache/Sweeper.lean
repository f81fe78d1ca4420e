import ExpiringCache.Cache.Run

/-!
# Sweeper

The background loop of a cache: plan a sleep, park, and then either make a pass
when the sleep is over or plan anew when a wake-up arrives.  The loop ends when
the cache is closed, and also when the clock can no longer be read.
-/

namespace ExpiringCache

namespace Sweeper

inductive Phase where
  | planning
  /-- Asleep since a reading of the clock of the cache, for a length of time. -/
  | parked (reading : Instant) (sleep : Duration)
  | stopped
  deriving DecidableEq, Repr

variable {K V H : Type} [DecidableEq K]

def plan (cache : Cache K V H) : Cache K V H × Phase :=
  match cache.clock.now with
  | .error _ => (cache, .stopped)
  | .ok now =>
      let (planned, sleep) := cache.planSleepAt now
      (planned, .parked now sleep)

def hear (cache : Cache K V H) : Phase → Cache K V H × Phase
  | .parked reading sleep =>
      match cache.takeWake with
      | (heard, true) => (heard, .planning)
      | (_, false) => (cache, .parked reading sleep)
  | phase => (cache, phase)

def ring (script : H → K → V → Script K V H) (depth : Nat) (cache : Cache K V H) :
    Cache K V H × Phase :=
  match cache.sweep script depth with
  | (reached, .error _) => (reached, .stopped)
  | (reached, .ok _) => (reached, .planning)

/-- Ends the loop once the cache is closed. -/
def obey (cache : Cache K V H) (phase : Phase) : Phase :=
  if cache.store.closed then .stopped else phase

end Sweeper

end ExpiringCache
