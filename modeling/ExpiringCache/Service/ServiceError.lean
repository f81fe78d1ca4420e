import ExpiringCache.Service.Reply

/-!
# Service errors

What the service itself can object to, and how it answers.
-/

namespace ExpiringCache

inductive ServiceError where
  /-- The sweeper could not be started, for the given cause. -/
  | startFailed (cause : String)
  /-- The key is not stored, or has expired. -/
  | notFound (key : String)
  | invalidRequest (reason : String)
  deriving DecidableEq, Repr

namespace ServiceError

def message : ServiceError → String
  | .startFailed cause => "Failed to start reaper: " ++ cause
  | .notFound key => "Key not found: " ++ key
  | .invalidRequest reason => "Invalid request: " ++ reason

def cause? : ServiceError → Option String
  | .startFailed cause => some cause
  | .notFound _ => none
  | .invalidRequest _ => none

def status : ServiceError → Nat
  | .startFailed _ => 500
  | .notFound _ => 404
  | .invalidRequest _ => 400

def reply (error : ServiceError) : Reply := .error error.message

end ServiceError

end ExpiringCache
