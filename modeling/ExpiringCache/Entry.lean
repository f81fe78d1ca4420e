import ExpiringCache.Lifetime

/-!
# Entry

One stored pair with its requested lifetime, its absolute deadline and its
place in the deadline heap.
-/

namespace ExpiringCache

structure Entry (K V : Type) where
  key : K
  value : V
  lifetime : Lifetime
  /-- The instant after which the entry has expired; none if it never does. -/
  deadline : Option Instant := none
  /-- Place in the deadline heap while the entry is queued. -/
  position : Option Nat := none
  deriving DecidableEq, Repr

namespace Entry

variable {K V : Type}

/--
Restarts the lifetime at `now`.  An entry whose lifetime is not finite, or ends
beyond the last instant, loses its deadline.
-/
def renew (entry : Entry K V) (now : Instant) (shared : Option Duration) : Entry K V :=
  { entry with deadline := (entry.lifetime.resolve shared).bind now.add? }

/-- An entry has expired once its deadline lies strictly in the past. -/
def isExpired (entry : Entry K V) (now : Instant) : Bool :=
  entry.deadline.any (· < now)

def remaining (entry : Entry K V) (now : Instant) : Option Duration :=
  entry.deadline.map now.timeUntil

def unplaced (entry : Entry K V) : Entry K V := { entry with position := none }

theorem deadline_renew (entry : Entry K V) (now : Instant) (shared : Option Duration) :
    (entry.renew now shared).deadline = (entry.lifetime.resolve shared).bind now.add? := rfl

/-- A renewal leaves no trace of an earlier one. -/
theorem renew_renew (entry : Entry K V) (now later : Instant)
    (shared laterShared : Option Duration) :
    (entry.renew now shared).renew later laterShared = entry.renew later laterShared := rfl

theorem isExpired_of_dated {entry : Entry K V} {deadline now : Instant}
    (dated : entry.deadline = some deadline) : entry.isExpired now = true ↔ deadline < now := by
  rw [isExpired, dated, Option.any_some, decide_eq_true_iff]

theorem isExpired_iff {entry : Entry K V} {now : Instant} :
    entry.isExpired now = true ↔ ∃ deadline, entry.deadline = some deadline ∧ deadline < now := by
  unfold isExpired
  cases entry.deadline with
  | none => simp
  | some deadline => simp

theorem isExpired_eq_false_iff {entry : Entry K V} {now : Instant} :
    entry.isExpired now = false ↔ ∀ deadline, entry.deadline = some deadline → now ≤ deadline := by
  rw [← Bool.not_eq_true, isExpired_iff]
  simp

theorem isExpired_renew (entry : Entry K V) (now : Instant) (shared : Option Duration) :
    (entry.renew now shared).isExpired now = false := by
  refine isExpired_eq_false_iff.mpr fun deadline dated => ?_
  rw [deadline_renew] at dated
  obtain ⟨length, -, sum⟩ := Option.bind_eq_some_iff.mp dated
  obtain ⟨reached, -⟩ := Instant.add?_eq_some_iff.mp sum
  rw [Instant.le_iff]
  omega

end Entry

end ExpiringCache
