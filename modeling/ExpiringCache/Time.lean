/-!
# Time

Lengths of time and points in time are counted in nanoseconds.  Both have a
largest value, and the sums that could pass it return an option.
-/

namespace ExpiringCache

@[ext] structure Duration where
  nanos : Nat
  deriving DecidableEq, Repr, Inhabited

/-- A point in time, counted from the beginning of time. -/
@[ext] structure Instant where
  nanos : Nat
  deriving DecidableEq, Repr, Inhabited

namespace Duration

def nanosPerSecond : Nat := 1000000000

def nanosPerMilli : Nat := 1000000

instance : LT Duration := ⟨fun left right => left.nanos < right.nanos⟩
instance : LE Duration := ⟨fun left right => left.nanos ≤ right.nanos⟩
instance : DecidableLT Duration := fun left right => Nat.decLt left.nanos right.nanos
instance : DecidableLE Duration := fun left right => Nat.decLe left.nanos right.nanos
instance : Min Duration := ⟨fun left right => ⟨min left.nanos right.nanos⟩⟩
instance : Max Duration := ⟨fun left right => ⟨max left.nanos right.nanos⟩⟩

@[simp] theorem lt_iff {left right : Duration} : left < right ↔ left.nanos < right.nanos :=
  Iff.rfl

@[simp] theorem le_iff {left right : Duration} : left ≤ right ↔ left.nanos ≤ right.nanos :=
  Iff.rfl

@[simp] theorem nanos_min (left right : Duration) :
    (min left right).nanos = min left.nanos right.nanos := rfl

@[simp] theorem nanos_max (left right : Duration) :
    (max left right).nanos = max left.nanos right.nanos := rfl

def zero : Duration := ⟨0⟩

def ofSeconds (seconds : Nat) : Duration := ⟨seconds * nanosPerSecond⟩

def ofMillis (millis : Nat) : Duration := ⟨millis * nanosPerMilli⟩

/-- The duration written as whole seconds and the nanoseconds beyond them. -/
def ofParts (seconds nanos : Nat) : Duration := ⟨seconds * nanosPerSecond + nanos⟩

def seconds (duration : Duration) : Nat := duration.nanos / nanosPerSecond

def subsecNanos (duration : Duration) : Nat := duration.nanos % nanosPerSecond

def millis (duration : Duration) : Nat := duration.nanos / nanosPerMilli

/-- The first length that is too long: its seconds no longer fit 64 bits. -/
def limit : Duration := ofSeconds (Nat.pow 2 64)

/-- The sum, if it is still a representable length. -/
def add? (left right : Duration) : Option Duration :=
  if left.nanos + right.nanos < limit.nanos then some ⟨left.nanos + right.nanos⟩ else none

/-- A disabled setting and a setting of length zero mean the same. -/
def positive? (duration : Option Duration) : Option Duration :=
  duration.filter (· ≠ zero)

theorem add?_eq_some_iff {left right sum : Duration} :
    left.add? right = some sum ↔
      left.nanos + right.nanos = sum.nanos ∧ sum.nanos < limit.nanos := by
  simp only [add?, Option.ite_none_right_eq_some, Option.some.injEq, Duration.ext_iff]
  omega

theorem positive?_eq_some_iff {setting : Option Duration} {duration : Duration} :
    positive? setting = some duration ↔ setting = some duration ∧ duration ≠ zero := by
  simp [positive?, Option.filter_eq_some_iff]

end Duration

namespace Instant

instance : LT Instant := ⟨fun left right => left.nanos < right.nanos⟩
instance : LE Instant := ⟨fun left right => left.nanos ≤ right.nanos⟩
instance : DecidableLT Instant := fun left right => Nat.decLt left.nanos right.nanos
instance : DecidableLE Instant := fun left right => Nat.decLe left.nanos right.nanos

@[simp] theorem lt_iff {left right : Instant} : left < right ↔ left.nanos < right.nanos :=
  Iff.rfl

@[simp] theorem le_iff {left right : Instant} : left ≤ right ↔ left.nanos ≤ right.nanos :=
  Iff.rfl

def origin : Instant := ⟨0⟩

/-- The first point in time that is too late: its seconds no longer fit 63 bits. -/
def limit : Instant := ⟨(Duration.ofSeconds (Nat.pow 2 63)).nanos⟩

def add? (start : Instant) (duration : Duration) : Option Instant :=
  if start.nanos + duration.nanos < limit.nanos then some ⟨start.nanos + duration.nanos⟩
  else none

/-- Time from `now` to `deadline`, zero once the deadline has passed. -/
def timeUntil (now deadline : Instant) : Duration := ⟨deadline.nanos - now.nanos⟩

theorem add?_eq_some_iff {start : Instant} {duration : Duration} {later : Instant} :
    start.add? duration = some later ↔
      start.nanos + duration.nanos = later.nanos ∧ later.nanos < limit.nanos := by
  simp only [add?, Option.ite_none_right_eq_some, Option.some.injEq, Instant.ext_iff]
  omega

theorem add?_eq_none_iff {start : Instant} {duration : Duration} :
    start.add? duration = none ↔ limit.nanos ≤ start.nanos + duration.nanos := by
  simp [add?]

end Instant

end ExpiringCache
