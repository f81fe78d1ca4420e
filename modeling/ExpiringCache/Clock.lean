import ExpiringCache.Fault
import ExpiringCache.Time

/-!
# Clock

A clock that moves only when it is told to.  It counts further than it can be
read: once the elapsed time leads from its start beyond the last instant, every
reading fails.
-/

namespace ExpiringCache

structure Clock where
  /-- The reading of the clock before it moves. -/
  start : Instant := .origin
  /-- Total time the clock has been moved forward. -/
  elapsed : Duration := .zero
  deriving DecidableEq, Repr

namespace Clock

def now (clock : Clock) : Except Fault Instant :=
  match clock.start.add? clock.elapsed with
  | some instant => .ok instant
  | none => .error .instantOverflow

/-- Moves the clock forward.  An advance that does not fit is refused whole. -/
def advance (clock : Clock) (duration : Duration) : Except Fault Clock :=
  match clock.elapsed.add? duration with
  | some elapsed => .ok { clock with elapsed }
  | none => .error .durationOverflow

theorem now_eq_ok_iff {clock : Clock} {instant : Instant} :
    clock.now = .ok instant ↔
      clock.start.nanos + clock.elapsed.nanos = instant.nanos ∧
        instant.nanos < Instant.limit.nanos := by
  rw [← Instant.add?_eq_some_iff]
  unfold now
  split <;> simp_all

end Clock

/-- Numbered handles on clocks; several handles may share one clock. -/
structure ClockHandles where
  clocks : Array Clock := #[]
  /-- The clock that each handle stands for. -/
  handles : Array Nat := #[]
  deriving DecidableEq, Repr

namespace ClockHandles

/-- The clock behind a handle; an unknown handle reads as a fresh clock. -/
def clock (bank : ClockHandles) (handle : Nat) : Clock :=
  ((bank.handles[handle]?).bind fun position => bank.clocks[position]?).getD {}

def create (bank : ClockHandles) (start : Instant) : ClockHandles × Nat :=
  ({ clocks := bank.clocks.push { start }, handles := bank.handles.push bank.clocks.size },
    bank.handles.size)

def share (bank : ClockHandles) (handle : Nat) : ClockHandles × Nat :=
  ({ bank with handles := bank.handles.push (bank.handles[handle]?.getD 0) },
    bank.handles.size)

def advance (bank : ClockHandles) (handle : Nat) (duration : Duration) :
    Except Fault ClockHandles := do
  let moved ← (bank.clock handle).advance duration
  match bank.handles[handle]? with
  | some position => pure { bank with clocks := bank.clocks.setIfInBounds position moved }
  | none => pure bank

end ClockHandles

end ExpiringCache
