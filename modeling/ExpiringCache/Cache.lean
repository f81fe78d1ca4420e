import ExpiringCache.Clock
import ExpiringCache.Handler
import ExpiringCache.Store.Sweep

/-!
# Cache

A store with a clock, installed handlers and a wake-up signal for the sweeper.
The operations of this module are the critical sections: each runs at one
reading of the clock, without interruption, and runs no handler.
-/

namespace ExpiringCache

structure Cache (K V H : Type) where
  store : Store K V := {}
  clock : Clock := {}
  handlers : Handlers K V H := {}
  /-- A wake-up for the sweeper is pending.  Several of them count as one. -/
  wake : Bool := false
  /-- What handlers and checks have done, in order. -/
  events : List (Event K V) := []

namespace Cache

variable {K V H : Type} [DecidableEq K]

/-- An empty cache; a shared lifetime of zero counts as none. -/
def create (clock : Clock) (sharedLifetime : Option Duration) (skipRenewal : Bool)
    (handlers : Handlers K V H) : Cache K V H where
  store := { sharedLifetime := Duration.positive? sharedLifetime, skipRenewal }
  clock := clock
  handlers := handlers

def record (cache : Cache K V H) (events : List (Event K V)) : Cache K V H :=
  { cache with events := cache.events ++ events }

def signal (cache : Cache K V H) (wake : Bool) : Cache K V H :=
  { cache with wake := cache.wake || wake }

/--
Stores a pair, unless the cache is closed.  Returns the handler that has to be
told of a new entry.
-/
def writeAt (cache : Cache K V H) (key : K) (value : V) (lifetime : Lifetime) (now : Instant) :
    Cache K V H × Option H :=
  if cache.store.closed then (cache, none)
  else
    let (store, written) := cache.store.write key value lifetime now
    ({ cache with store }.signal written.wake,
      if written.isNew then cache.handlers.onInsert else none)

def readAt (cache : Cache K V H) (key : K) (now : Instant) :
    Cache K V H × Option (V × Option Duration) :=
  if cache.store.closed then (cache, none)
  else
    match cache.store.lookup key now with
    | (store, none) => ({ cache with store }, none)
    | (store, some id) =>
        let (store, wake) := store.renewOnRead id now
        ({ cache with store }.signal wake,
          (store.entry? id).map fun entry => (entry.value, entry.remaining now))

def touchAt (cache : Cache K V H) (key : K) (now : Instant) : Cache K V H × Bool :=
  match cache.store.touch key now with
  | (_, none) => (cache, false)
  | (store, some wake) => ({ cache with store }.signal wake, true)

def remove (cache : Cache K V H) (key : K) : Cache K V H × Bool :=
  let (store, present) := cache.store.remove key
  ({ cache with store }, present)

/-- Changes the shared lifetime and has the sweeper plan anew. -/
def setSharedLifetime (cache : Cache K V H) (duration : Duration) : Cache K V H :=
  { cache with
    store := { cache.store with sharedLifetime := Duration.positive? (some duration) } }.signal
    true

def setSkipRenewal (cache : Cache K V H) (skip : Bool) : Cache K V H :=
  { cache with store := { cache.store with skipRenewal := skip } }

def purge (cache : Cache K V H) : Cache K V H :=
  { cache with store := cache.store.purge }

/-- Marks the cache as closed; tells whether it was open. -/
def markClosed (cache : Cache K V H) : Cache K V H × Bool :=
  if cache.store.closed then (cache, false)
  else ({ cache with store := { cache.store with closed := true } }, true)

def close (cache : Cache K V H) : Cache K V H :=
  match cache.markClosed with
  | (_, false) => cache
  | (marked, true) => marked.purge

def planSleepAt (cache : Cache K V H) (now : Instant) : Cache K V H × Duration :=
  let (store, sleep) := cache.store.planSleep now
  ({ cache with store }, sleep)

def sweepAt (cache : Cache K V H) (now : Instant) : Cache K V H × List (K × V) :=
  let pass := cache.store.sweep cache.handlers.check now
  ({ cache with
      store := pass.store
      handlers := { cache.handlers with check := pass.check } }.record
    (pass.consultations.map .checked), pass.evicted)

def takeWake (cache : Cache K V H) : Cache K V H × Bool :=
  ({ cache with wake := false }, cache.wake)

def takeEvents (cache : Cache K V H) : Cache K V H × List (Event K V) :=
  ({ cache with events := [] }, cache.events)

end Cache

end ExpiringCache
