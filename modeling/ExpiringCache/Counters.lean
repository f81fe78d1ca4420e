/-!
# Counters

Counters of what a cache has done since it was made.
-/

namespace ExpiringCache

structure Counters where
  inserted : Nat := 0
  /-- Look-ups of any outcome. -/
  retrieved : Nat := 0
  hits : Nat := 0
  misses : Nat := 0
  evicted : Nat := 0
  deriving DecidableEq, Repr

namespace Counters

def countInsertion (counters : Counters) : Counters :=
  { counters with inserted := counters.inserted + 1 }

def countHit (counters : Counters) : Counters :=
  { counters with retrieved := counters.retrieved + 1, hits := counters.hits + 1 }

def countMiss (counters : Counters) : Counters :=
  { counters with retrieved := counters.retrieved + 1, misses := counters.misses + 1 }

def countEviction (counters : Counters) : Counters :=
  { counters with evicted := counters.evicted + 1 }

/-- The share of look-ups that hit, zero before the first one. -/
def hitRate (counters : Counters) : Float :=
  let total := counters.hits + counters.misses
  if total = 0 then 0.0
  else counters.hits.toUInt64.toFloat / total.toUInt64.toFloat

end Counters

end ExpiringCache
