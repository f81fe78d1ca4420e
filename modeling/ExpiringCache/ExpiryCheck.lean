/-!
# Expiry check

A client may have a say before an expired entry is evicted.  Its verdict may
depend on everything it has been asked since it was installed, so a check is a
function of that history.
-/

namespace ExpiringCache

inductive Verdict where
  /-- The entry may go. -/
  | allow
  /-- The entry is kept for one more lifetime. -/
  | veto
  /-- The check failed, which counts as consent. -/
  | fail
  deriving DecidableEq, Repr

/-- Only a veto keeps an expired entry. -/
def Verdict.permits (verdict : Verdict) : Bool := verdict ≠ .veto

structure Consultation (K V : Type) where
  key : K
  value : V
  verdict : Verdict
  deriving DecidableEq, Repr

structure ExpiryCheck (K V : Type) where
  /-- The verdict on a pair after the earlier questions, the latest first. -/
  verdict : List (K × V) → K → V → Verdict
  /-- The questions put so far, the latest first. -/
  history : List (K × V) := []

namespace ExpiryCheck

variable {K V : Type}

def consult (check : ExpiryCheck K V) (key : K) (value : V) :
    ExpiryCheck K V × Consultation K V :=
  ({ check with history := (key, value) :: check.history },
    { key, value, verdict := check.verdict check.history key value })

end ExpiryCheck

/-- A fixed rule for the verdicts of a check. -/
structure VetoRule (K : Type) where
  /-- Verdicts for single keys, which take precedence. -/
  byKey : List (K × Verdict) := []
  /-- How many questions about each key are answered with a veto at first. -/
  vetoFirst : Nat := 0
  /-- The verdict in all other cases. -/
  otherwise : Verdict := .allow
  deriving DecidableEq, Repr

namespace VetoRule

variable {K V : Type} [DecidableEq K]

def verdict (rule : VetoRule K) (history : List (K × V)) (key : K) (_ : V) : Verdict :=
  match rule.byKey.lookup key with
  | some verdict => verdict
  | none =>
      if history.countP (·.1 = key) < rule.vetoFirst then .veto else rule.otherwise

def check (rule : VetoRule K) : ExpiryCheck K V := { verdict := rule.verdict }

end VetoRule

end ExpiringCache
