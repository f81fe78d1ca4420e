import Mathlib.Data.List.AList
import Mathlib.Data.List.MinMax
import ExpiringCache.Proofs.Cache.Section
import ExpiringCache.Proofs.Checks

/-!
# The ledger

A reference machine for caches: a finite map from keys to values with their
lifetimes and deadlines, and a few settings.  It has no slots and no queue.
What is due first, and what has expired, it finds by going through the whole map.
-/

namespace ExpiringCache

/-- A value with its requested lifetime and its deadline. -/
structure Item (V : Type) where
  value : V
  lifetime : Lifetime
  deadline : Option Instant := none
  deriving DecidableEq, Repr

namespace Item

variable {V : Type}

def renew (item : Item V) (now : Instant) (shared : Option Duration) : Item V :=
  { item with deadline := (item.lifetime.resolve shared).bind now.add? }

def isExpired (item : Item V) (now : Instant) : Bool :=
  item.deadline.any (· < now)

def remaining (item : Item V) (now : Instant) : Option Duration :=
  item.deadline.map now.timeUntil

end Item

/-- What a step shows to its caller.  `B` is the form in which evicted entries are listed. -/
inductive Report (K V B : Type) where
  | fault (fault : Fault)
  /-- A write found the cache closed. -/
  | ignored
  | written (isNew : Bool)
  | answer (answer : Answer K V)
  | sleep (duration : Duration)
  | evicted (batch : B)

/-- The report of a call that returns an answer or a fault. -/
def Report.ofResult {K V B : Type} : Except Fault (Answer K V) → Report K V B
  | .error reason => .fault reason
  | .ok returned => .answer returned

structure Ledger (K V : Type) where
  items : AList fun _ : K => Item V
  sharedLifetime : Option Duration
  skipRenewal : Bool
  closed : Bool
  counters : Counters
  nextWake : Option Instant
  /-- The check of the client, with what it was asked. -/
  check : Option (ExpiryCheck K V)

namespace Ledger

variable {K V H : Type} [DecidableEq K]

def create (sharedLifetime : Option Duration) (skipRenewal : Bool)
    (check : Option (ExpiryCheck K V)) : Ledger K V where
  items := ∅
  sharedLifetime := sharedLifetime.filter (· ≠ .zero)
  skipRenewal := skipRenewal
  closed := false
  counters := {}
  nextWake := none
  check := check

def live? (ledger : Ledger K V) (key : K) (now : Instant) : Option (Item V) :=
  (ledger.items.lookup key).filter (!·.isExpired now)

def put (ledger : Ledger K V) (key : K) (item : Item V) : Ledger K V :=
  { ledger with items := ledger.items.insert key item }

/-- Whether an item is due before the sweeper means to wake. -/
def calls (ledger : Ledger K V) (item : Item V) : Bool :=
  match item.deadline, ledger.nextWake with
  | none, _ => false
  | some _, none => true
  | some due, some wake => due < wake

def write (ledger : Ledger K V) (key : K) (item : Item V) : Ledger K V :=
  { ledger.put key item with
    counters :=
      if (ledger.items.lookup key).isNone then ledger.counters.countInsertion
      else ledger.counters }

def keptOnRead (ledger : Ledger K V) (item : Item V) (now : Instant) : Item V :=
  if ledger.skipRenewal then item else item.renew now ledger.sharedLifetime

/-- Looks an item up and renews it, unless reads leave lifetimes alone. -/
def read (ledger : Ledger K V) (key : K) (now : Instant) :
    Ledger K V × Option (V × Option Duration) × Bool :=
  if ledger.closed then (ledger, none, false)
  else
    match ledger.live? key now with
    | none => ({ ledger with counters := ledger.counters.countMiss }, none, false)
    | some item =>
        let kept := ledger.keptOnRead item now
        ({ ledger.put key kept with counters := ledger.counters.countHit },
          some (item.value, kept.remaining now), !ledger.skipRenewal && ledger.calls kept)

section

variable {ledger : Ledger K V} {key : K} {now : Instant}

theorem read_of_closed (closed : ledger.closed = true) :
    ledger.read key now = (ledger, none, false) := by
  unfold read
  rw [if_pos closed]

theorem read_of_miss (opened : ledger.closed = false) (missed : ledger.live? key now = none) :
    ledger.read key now = ({ ledger with counters := ledger.counters.countMiss }, none, false) := by
  rw [read, if_neg (ne_true_of_eq_false opened), missed]

theorem read_of_hit (opened : ledger.closed = false) {item : Item V}
    (hit : ledger.live? key now = some item) :
    ledger.read key now =
      ({ ledger.put key (ledger.keptOnRead item now) with
          counters := ledger.counters.countHit },
        some (item.value, (ledger.keptOnRead item now).remaining now),
        !ledger.skipRenewal && ledger.calls (ledger.keptOnRead item now)) := by
  rw [read, if_neg (ne_true_of_eq_false opened), hit]

end

def earliest? (ledger : Ledger K V) : Option Instant :=
  (ledger.items.entries.filterMap (·.2.deadline)).argmin Instant.nanos

def sleepTime (ledger : Ledger K V) (now : Instant) : Duration :=
  match ledger.earliest? with
  | none => min (ledger.sharedLifetime.getD idleSleep) idleSleep
  | some due =>
      let untilDue := now.timeUntil due
      min (max (ledger.sharedLifetime.elim untilDue (min untilDue)) minSleep) idleSleep

/-- Asks the check about one expired item, and drops the item or renews it. -/
def judge (now : Instant) (state : Ledger K V × List (K × Item V))
    (row : (_ : K) × Item V) : Ledger K V × List (K × Item V) :=
  let ledger :=
    { state.1 with check := ExpiryCheck.asked state.1.check row.1 row.2.value }
  if ExpiryCheck.permits state.1.check row.1 row.2.value then
    ({ ledger with
        items := ledger.items.erase row.1
        counters := ledger.counters.countEviction }, state.2 ++ [(row.1, row.2)])
  else (ledger.put row.1 (row.2.renew now ledger.sharedLifetime), state.2)

/-- Judges every expired item of the map, and lists those that are gone. -/
def sweep (ledger : Ledger K V) (now : Instant) : Ledger K V × List (K × Item V) :=
  (ledger.items.entries.filter (·.2.isExpired now)).foldl (judge now) (ledger, [])

def atReading (ledger : Ledger K V) (clock : Clock)
    (body : Instant → Ledger K V × Report K V (List (K × Item V)) × Bool) :
    Ledger K V × Report K V (List (K × Item V)) × Bool :=
  match clock.now with
  | .error fault => (ledger, .fault fault, false)
  | .ok now => body now

/-- One step: the ledger after it, what it shows, and whether it wakes the sweeper. -/
def act (ledger : Ledger K V) (clock : Clock) :
    Action K V H → Ledger K V × Report K V (List (K × Item V)) × Bool
  | .call (.set key value lifetime) =>
      ledger.atReading clock fun now =>
        if ledger.closed then (ledger, .ignored, false)
        else
          let item := ({ value, lifetime } : Item V).renew now ledger.sharedLifetime
          (ledger.write key item, .written (ledger.items.lookup key).isNone, ledger.calls item)
  | .call (.get key) =>
      ledger.atReading clock fun now =>
        let (reached, lease, wake) := ledger.read key now
        (reached, .answer (.value (lease.map (·.1))), wake)
  | .call (.getLease key) =>
      ledger.atReading clock fun now =>
        let (reached, lease, wake) := ledger.read key now
        (reached, .answer (.lease lease), wake)
  | .call (.touch key) =>
      ledger.atReading clock fun now =>
        match ledger.live? key now with
        | none => (ledger, .answer (.flag false), false)
        | some item =>
            let kept := item.renew now ledger.sharedLifetime
            (ledger.put key kept, .answer (.flag true), ledger.calls kept)
  | .call (.remove key) =>
      ({ ledger with items := ledger.items.erase key },
        .answer (.flag (ledger.items.lookup key).isSome), false)
  | .call .count => (ledger, .answer (.number ledger.items.entries.length), false)
  | .call .keys =>
      ledger.atReading clock fun now =>
        (ledger, .answer (.keys ((ledger.items.entries.filter (!·.2.isExpired now)).map (·.1))),
          false)
  | .call .counters => (ledger, .answer (.counters ledger.counters), false)
  | .call (.setSharedLifetime duration) =>
      ({ ledger with sharedLifetime := if duration = .zero then none else some duration },
        .answer .done, true)
  | .call (.skipRenewal skip) => ({ ledger with skipRenewal := skip }, .answer .done, false)
  | .call (.onInsert _) => (ledger, .answer .done, false)
  | .call (.onEvict _) => (ledger, .answer .done, false)
  | .call (.onCheck verdict) => ({ ledger with check := some { verdict } }, .answer .done, false)
  | .call .purge => ({ ledger with items := ∅ }, .answer .done, false)
  | .call .close =>
      ({ ledger with items := if ledger.closed then ledger.items else ∅, closed := true },
        .answer .done, false)
  | .call .isClosed => (ledger, .answer (.flag ledger.closed), false)
  | .planSleep =>
      ledger.atReading clock fun now =>
        ({ ledger with nextWake := now.add? (ledger.sleepTime now) },
          .sleep (ledger.sleepTime now), false)
  | .sweep =>
      ledger.atReading clock fun now =>
        let (swept, gone) := ledger.sweep now
        (swept, .evicted gone, false)

/-- What every step of a session shows, and whether it wakes the sweeper. -/
def reports : List (Clock × Action K V H) → Ledger K V →
    List (Report K V (List (K × Item V)) × Bool)
  | [], _ => []
  | (clock, action) :: rest, ledger =>
      let (reached, shown) := ledger.act clock action
      shown :: reports rest reached

end Ledger

/-! ## The same of a cache -/

namespace Cache

variable {K V H : Type} [DecidableEq K]

/-- What an action shows to its caller.  Of a write it is what its section reports. -/
def report (script : H → K → V → Script K V H) (depth : Nat) (cache : Cache K V H)
    (clock : Clock) : Action K V H → Report K V (List (K × V))
  | .call (.set key value lifetime) =>
      match clock.now with
      | .error fault => .fault fault
      | .ok now =>
          if cache.store.closed then .ignored
          else .written (cache.store.write key value lifetime now).2.isNew
  | .call call => .ofResult ({ cache with clock }.perform script depth call).2
  | .planSleep =>
      match ({ cache with clock }.planSleep).2 with
      | .error fault => .fault fault
      | .ok sleep => .sleep sleep
  | .sweep =>
      match clock.now with
      | .error fault => .fault fault
      | .ok now => .evicted (cache.sweepAt now).2

/-- Whether an action leaves a wake-up where none is pending. -/
def signals (script : H → K → V → Script K V H) (depth : Nat) (cache : Cache K V H)
    (clock : Clock) (action : Action K V H) : Bool :=
  ({ cache with wake := false }.act script depth clock action).wake

/-- What every action of a session shows, and whether it leaves a wake-up. -/
def reports (script : H → K → V → Script K V H) (depth : Nat) :
    List (Clock × Action K V H) → Cache K V H → List (Report K V (List (K × V)) × Bool)
  | [], _ => []
  | (clock, action) :: rest, cache =>
      (cache.report script depth clock action, cache.signals script depth clock action) ::
        reports script depth rest (cache.act script depth clock action)

end Cache

end ExpiringCache
