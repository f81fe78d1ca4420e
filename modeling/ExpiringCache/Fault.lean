/-!
# Faults

The ways in which a call on a cache or a clock can be cut short.
-/

namespace ExpiringCache

/-- A reason for which a call ends without an answer. -/
inductive Fault where
  /-- The sum of two durations is too long. -/
  | durationOverflow
  /-- The clock has run past the last representable instant. -/
  | instantOverflow
  /-- The handler of new entries failed. -/
  | insertHandlerFailed
  /-- The handler of evicted entries failed. -/
  | evictHandlerFailed
  /-- Handlers called one another more deeply than the caller allows. -/
  | nestingTooDeep
  deriving DecidableEq, Repr

def Fault.message : Fault → String
  | .durationOverflow => "overflow when adding durations"
  | .instantOverflow => "overflow when adding duration to instant"
  | .insertHandlerFailed => "new callback failed"
  | .evictHandlerFailed => "expire callback failed"
  | .nestingTooDeep => "handlers are nested too deeply"

end ExpiringCache
