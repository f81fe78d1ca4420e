import ExpiringCache.KeyIndex
import ExpiringCache.Counters
import ExpiringCache.Schedule

/-!
# Store

Everything a cache keeps under its lock.  Each operation is one critical
section; the clock is read outside, so `now` is an argument.
-/

namespace ExpiringCache

/-- The shortest sleep planned when the earliest deadline is already due. -/
def minSleep : Duration := .ofMillis 1

/-- The longest sleep, also planned when there is nothing to wait for. -/
def idleSleep : Duration := .ofSeconds 3600

structure Store (K V : Type) where
  index : KeyIndex K := {}
  schedule : Schedule K V := {}
  /-- The lifetime of entries that ask for none of their own. -/
  sharedLifetime : Option Duration := none
  /-- Whether reads leave the lifetime of an entry alone. -/
  skipRenewal : Bool := false
  counters : Counters := {}
  /-- The instant until which the sweeper last planned to sleep. -/
  nextWake : Option Instant := none
  closed : Bool := false
  deriving DecidableEq, Repr

namespace Store

variable {K V : Type} [DecidableEq K]

def entry? (store : Store K V) (id : SlotId) : Option (Entry K V) :=
  store.schedule.entries.get? id

def sleepsPast (store : Store K V) (deadline : Option Instant) : Bool :=
  deadline.any fun due => store.nextWake.all (due < ·)

/--
Restarts the lifetime of the entry in a slot and moves it within, into or out
of the queue.  Tells whether the sweeper has to be woken for its new deadline.
-/
def renew (store : Store K V) (id : SlotId) (now : Instant) : Store K V × Bool :=
  match store.entry? id with
  | none => (store, false)
  | some entry =>
      let deadline := (entry.renew now store.sharedLifetime).deadline
      let renewed := store.schedule.update id (·.renew now store.sharedLifetime)
      let schedule :=
        match deadline, entry.position with
        | some _, some _ => renewed.fix id
        | some _, none => renewed.push id
        | none, some _ => (renewed.remove id).1
        | none, none => renewed
      ({ store with schedule }, store.sleepsPast deadline)

structure Written where
  /-- The key was absent before. -/
  isNew : Bool
  /-- The sweeper has to be woken. -/
  wake : Bool
  deriving DecidableEq, Repr

/-- Stores a pair, replacing value and lifetime if the key is present. -/
def write (store : Store K V) (key : K) (value : V) (lifetime : Lifetime) (now : Instant) :
    Store K V × Written :=
  match store.index.find? key with
  | some id =>
      let schedule := store.schedule.update id fun entry => { entry with value, lifetime }
      let (renewed, wake) := { store with schedule }.renew id now
      (renewed, { isNew := false, wake })
  | none =>
      let (schedule, id) := store.schedule.insert { key, value, lifetime }
      let (renewed, wake) :=
        { store with
          schedule
          index := store.index.insert key id
          counters := store.counters.countInsertion }.renew id now
      (renewed, { isNew := true, wake })

def liveSlot? (store : Store K V) (key : K) (now : Instant) : Option SlotId :=
  (store.index.find? key).filter fun id => (store.entry? id).any (!·.isExpired now)

/-- Looks a live entry up and counts the attempt. -/
def lookup (store : Store K V) (key : K) (now : Instant) : Store K V × Option SlotId :=
  match store.liveSlot? key now with
  | some id => ({ store with counters := store.counters.countHit }, some id)
  | none => ({ store with counters := store.counters.countMiss }, none)

/-- Renews an entry that was read, unless reads leave lifetimes alone. -/
def renewOnRead (store : Store K V) (id : SlotId) (now : Instant) : Store K V × Bool :=
  if store.skipRenewal then (store, false) else store.renew id now

def touch (store : Store K V) (key : K) (now : Instant) : Store K V × Option Bool :=
  match store.liveSlot? key now with
  | none => (store, none)
  | some id =>
      let (renewed, wake) := store.renew id now
      (renewed, some wake)

/-- Takes a key out; tells whether it was present. -/
def remove (store : Store K V) (key : K) : Store K V × Bool :=
  match store.index.find? key with
  | none => (store, false)
  | some id =>
      ({ store with
          index := store.index.erase key
          schedule := ((store.schedule.remove id).1.discard id).1 }, true)

def purge (store : Store K V) : Store K V :=
  { store with index := {}, schedule := {} }

/-- How many entries are stored, expired ones included. -/
def count (store : Store K V) : Nat := store.index.size

def liveKeys (store : Store K V) (now : Instant) : List K :=
  (store.index.pairs.filter fun pair => (store.entry? pair.2).any (!·.isExpired now)).map (·.1)

/-- The value under a key, expired or not. -/
def valueAt? (store : Store K V) (key : K) : Option V :=
  ((store.index.find? key).bind store.entry?).map Entry.value

def earliestDeadline? (store : Store K V) : Option Instant :=
  store.schedule.first?.bind store.schedule.deadlineOf

/--
How long the sweeper may sleep: until the earliest deadline, but not longer
than the shared lifetime and not shorter than `minSleep`; without a deadline as
long as the shared lifetime; and never longer than `idleSleep`.
-/
def sleepTime (store : Store K V) (now : Instant) : Duration :=
  match store.earliestDeadline? with
  | some deadline =>
      let untilDue := now.timeUntil deadline
      let capped :=
        match store.sharedLifetime with
        | some shared => if shared < untilDue then shared else untilDue
        | none => untilDue
      min (max capped minSleep) idleSleep
  | none => min (store.sharedLifetime.getD idleSleep) idleSleep

/-- Plans a sleep and records the instant at which it ends. -/
def planSleep (store : Store K V) (now : Instant) : Store K V × Duration :=
  let sleep := store.sleepTime now
  ({ store with nextWake := now.add? sleep }, sleep)

end Store

end ExpiringCache
