import ExpiringCache.ExpiryCheck
import ExpiringCache.Fault
import ExpiringCache.Lifetime
import ExpiringCache.Counters

/-!
# Handlers

Clients install handlers for new and for evicted entries, and a handler may
call the cache again.  Handlers are known by name; what a named handler does
with a pair is a script, that is, a tree of calls whose branches are the
answers.
-/

namespace ExpiringCache

/-- A call on a cache.  `H` names the handlers that can be installed. -/
inductive Call (K V H : Type) where
  | set (key : K) (value : V) (lifetime : Lifetime)
  | get (key : K)
  /-- Like `get`, with the time the entry has left. -/
  | getLease (key : K)
  | touch (key : K)
  | remove (key : K)
  | count
  | keys
  | counters
  | setSharedLifetime (duration : Duration)
  | skipRenewal (skip : Bool)
  | onInsert (handler : H)
  | onEvict (handler : H)
  | onCheck (verdict : List (K × V) → K → V → Verdict)
  | purge
  | close
  | isClosed

inductive Answer (K V : Type) where
  | done
  | value (value : Option V)
  | lease (lease : Option (V × Option Duration))
  | flag (flag : Bool)
  | number (number : Nat)
  | keys (keys : List K)
  | counters (counters : Counters)
  deriving DecidableEq

/-- What can be seen of the handlers and checks of a cache. -/
inductive Event (K V : Type) where
  /-- The handler of new entries was run. -/
  | inserted (key : K) (value : V)
  /-- The handler of evicted entries was run. -/
  | evicted (key : K) (value : V)
  /-- The expiry check was asked. -/
  | checked (consultation : Consultation K V)
  /-- A handler looked at the cache: the number of entries and one value. -/
  | observed (count : Nat) (value : Option V)
  /-- A handler removed a key, which was present or not. -/
  | removed (present : Bool)
  deriving DecidableEq

/-- What a handler does with one pair. -/
inductive Script (K V H : Type) where
  | done
  /-- The handler fails. -/
  | fail
  /-- Leaves a note and goes on. -/
  | note (event : Event K V) (rest : Script K V H)
  /-- Makes a call and goes on with its answer. -/
  | call (call : Call K V H) (next : Answer K V → Script K V H)

structure Handlers (K V H : Type) where
  onInsert : Option H := none
  onEvict : Option H := none
  check : Option (ExpiryCheck K V) := none

namespace Script

variable {K V H : Type}

/-- A script that makes no calls leaves the cache alone. -/
def isQuiet : Script K V H → Bool
  | done => true
  | fail => true
  | note _ rest => rest.isQuiet
  | call _ _ => false

end Script

end ExpiringCache
