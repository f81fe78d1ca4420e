import ExpiringCache.Sweeper

/-!
# Timeline

A cache and its sweeper in real time.  The sweeper sleeps in real time but
judges by the clock of the cache, which either shows real time or stands still
until it is moved.  Calls take no time, and the sweeper answers each wake-up at
once, so a run is determined by the calls and the pauses between them.
-/

namespace ExpiringCache

structure Timeline (K V H : Type) where
  cache : Cache K V H
  phase : Sweeper.Phase := .planning
  /-- When the current sleep began. -/
  parkedAt : Instant := .origin
  /-- Real time, counted from the start of the clock of the cache. -/
  now : Instant := .origin
  /-- The clock of the cache shows real time. -/
  realClock : Bool := false

namespace Timeline

variable {K V H : Type} [DecidableEq K]

def plan (timeline : Timeline K V H) : Timeline K V H :=
  match Sweeper.obey timeline.cache timeline.phase with
  | .planning =>
      let (cache, phase) := Sweeper.plan timeline.cache
      { timeline with cache, phase, parkedAt := timeline.now }
  | phase => { timeline with phase }

def settle (timeline : Timeline K V H) : Timeline K V H :=
  let planned := timeline.plan
  let (cache, phase) := Sweeper.hear planned.cache planned.phase
  { planned with cache, phase }.plan

def start (cache : Cache K V H) (realClock : Bool) : Timeline K V H :=
  { cache, realClock : Timeline K V H }.settle

def act {α : Type} (timeline : Timeline K V H) (client : Cache K V H → Cache K V H × α) :
    Timeline K V H × α :=
  let (cache, answer) := client timeline.cache
  ({ timeline with cache }.settle, answer)

/-- Moves real time on, without letting the sweeper act. -/
def moveTo (timeline : Timeline K V H) (now : Instant) : Timeline K V H :=
  { timeline with
    now
    cache :=
      if timeline.realClock then
        { timeline.cache with clock := { timeline.cache.clock with elapsed := ⟨now.nanos⟩ } }
      else timeline.cache }

/-- When the current sleep ends.  A timer takes at least `minSleep`. -/
def alarm? (timeline : Timeline K V H) : Option Instant :=
  match timeline.phase with
  | .parked _ sleep => some ⟨timeline.parkedAt.nanos + (max sleep minSleep).nanos⟩
  | _ => none

def ringAt (script : H → K → V → Script K V H) (depth : Nat) (timeline : Timeline K V H)
    (alarm : Instant) : Timeline K V H :=
  let moved := timeline.moveTo alarm
  let (cache, phase) := Sweeper.ring script depth moved.cache
  { moved with cache, phase }.settle

omit [DecidableEq K] in
@[simp] theorem now_moveTo (timeline : Timeline K V H) (now : Instant) :
    (timeline.moveTo now).now = now := rfl

omit [DecidableEq K] in
@[simp] theorem now_plan (timeline : Timeline K V H) : timeline.plan.now = timeline.now := by
  unfold plan
  split <;> rfl

omit [DecidableEq K] in
@[simp] theorem now_settle (timeline : Timeline K V H) : timeline.settle.now = timeline.now := by
  simp [settle]

@[simp] theorem now_ringAt (script : H → K → V → Script K V H) (depth : Nat)
    (timeline : Timeline K V H) (alarm : Instant) :
    (timeline.ringAt script depth alarm).now = alarm := by
  simp [ringAt]

/-- Lets real time pass until a condition on the cache holds, at the latest until `latest`. -/
def passUntil (script : H → K → V → Script K V H) (depth : Nat)
    (condition : Cache K V H → Bool) (latest : Instant) (timeline : Timeline K V H) :
    Timeline K V H :=
  if condition timeline.cache then timeline
  else
    match timeline.alarm? with
    | some alarm =>
        if timeline.now < alarm ∧ alarm ≤ latest then
          passUntil script depth condition latest (timeline.ringAt script depth alarm)
        else timeline.moveTo latest
    | none => timeline.moveTo latest
termination_by latest.nanos - timeline.now.nanos
decreasing_by
  rename_i ahead
  have before : timeline.now.nanos < alarm.nanos := ahead.1
  have inside : alarm.nanos ≤ latest.nanos := ahead.2
  simp only [now_ringAt]
  omega

def pause (script : H → K → V → Script K V H) (depth : Nat) (timeline : Timeline K V H)
    (duration : Duration) : Timeline K V H :=
  timeline.passUntil script depth (fun _ => false)
    ⟨timeline.now.nanos + duration.nanos⟩

def patience : Duration := .ofSeconds 5

/-- Waits until a condition on the cache holds; tells whether it came to hold. -/
def await (script : H → K → V → Script K V H) (depth : Nat) (timeline : Timeline K V H)
    (condition : Cache K V H → Bool) : Timeline K V H × Bool :=
  let reached := timeline.passUntil script depth condition
    ⟨timeline.now.nanos + patience.nanos⟩
  (reached, condition reached.cache)

end Timeline

end ExpiringCache
