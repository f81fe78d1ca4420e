/-!
# Refusal

Why a text is not accepted as the JSON value that is asked for.
-/

namespace ExpiringCache.Json

inductive Refusal where
  /-- The text ends before the value does. -/
  | ended
  /-- The text is not JSON. -/
  | malformed
  /-- The value is of another shape. -/
  | unfit
  deriving DecidableEq, Repr

end ExpiringCache.Json
