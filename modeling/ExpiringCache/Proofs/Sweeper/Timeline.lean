import ExpiringCache.Proofs.Sweeper.WakeUp
import ExpiringCache.Sweeper.Timeline

/-!
# Timelines take the steps of the sweeper

A run in real time is one of the many orders in which a sweeper and its clients may
take their steps.  So what holds of all these orders holds along a timeline: after
every action of a client the sweeper has stopped, or is parked with no wake-up
pending and in time for every entry.
-/

namespace ExpiringCache

open Relation (ReflTransGen)

namespace Timeline

variable {K V H : Type}

/-- Where cache and sweeper stand. -/
def state (timeline : Timeline K V H) : Cache K V H × Sweeper.Phase :=
  (timeline.cache, timeline.phase)

def withState (timeline : Timeline K V H) (state : Cache K V H × Sweeper.Phase) :
    Timeline K V H :=
  { timeline with cache := state.1, phase := state.2 }

theorem settle_eq (timeline : Timeline K V H) :
    timeline.settle =
      (timeline.plan.withState (Sweeper.hear timeline.plan.cache timeline.plan.phase)).plan := rfl

/-! ## Rest -/

/-- The sweeper has stopped, or is parked with no wake-up pending. -/
def IsSettled (timeline : Timeline K V H) : Prop :=
  timeline.phase = .stopped ∨
    (∃ reading sleep, timeline.phase = .parked reading sleep) ∧ timeline.cache.wake = false

theorem plan_cases (timeline : Timeline K V H) :
    timeline.plan.cache.wake = timeline.cache.wake ∧
      (timeline.plan.phase = .stopped ∨
        ∃ reading sleep, timeline.plan.phase = .parked reading sleep) := by
  unfold plan
  split
  · have planned : (Sweeper.plan timeline.cache).1.wake = timeline.cache.wake ∧
        ((Sweeper.plan timeline.cache).2 = .stopped ∨
          ∃ reading sleep, (Sweeper.plan timeline.cache).2 = .parked reading sleep) := by
      unfold Sweeper.plan
      split
      · exact ⟨rfl, .inl rfl⟩
      · exact ⟨rfl, .inr ⟨_, _, rfl⟩⟩
    exact planned
  · rename_i unplanned
    refine ⟨rfl, ?_⟩
    dsimp only
    cases obeyed : Sweeper.obey timeline.cache timeline.phase with
    | planning => exact absurd obeyed unplanned
    | stopped => exact .inl rfl
    | parked reading sleep => exact .inr ⟨reading, sleep, rfl⟩

theorem plan_of_stopped {timeline : Timeline K V H} (stopped : timeline.phase = .stopped) :
    timeline.plan.phase = .stopped := by
  have obeyed : Sweeper.obey timeline.cache timeline.phase = .stopped := by
    rw [stopped, Sweeper.obey, ite_self]
  unfold plan
  rw [obeyed]

theorem isSettled_settle (timeline : Timeline K V H) : timeline.settle.IsSettled := by
  rw [settle_eq]
  obtain ⟨-, stopped | ⟨reading, sleep, parked⟩⟩ := timeline.plan_cases
  · refine .inl (plan_of_stopped ?_)
    rw [stopped]
    rfl
  · have calm : (timeline.plan.withState
        (Sweeper.hear timeline.plan.cache timeline.plan.phase)).cache.wake = false := by
      rw [parked, Sweeper.hear, Cache.takeWake]
      cases pending : timeline.plan.cache.wake with
      | true => rfl
      | false => exact pending
    obtain ⟨kept, ends⟩ := plan_cases (timeline.plan.withState _)
    exact ends.imp_right fun parked => ⟨parked, kept.trans calm⟩

theorem isSettled_moveTo {timeline : Timeline K V H} (settled : timeline.IsSettled)
    (now : Instant) : (timeline.moveTo now).IsSettled := by
  have kept : (timeline.moveTo now).cache.wake = timeline.cache.wake := by
    unfold moveTo
    dsimp only
    split <;> rfl
  unfold IsSettled
  rw [kept]
  exact settled

/-! ## Steps -/

variable [DecidableEq K]

theorem ringAt_eq (script : H → K → V → Script K V H) (depth : Nat) (timeline : Timeline K V H)
    (alarm : Instant) :
    timeline.ringAt script depth alarm =
      ((timeline.moveTo alarm).withState
        (Sweeper.ring script depth (timeline.moveTo alarm).cache)).settle := rfl

theorem steps_plan (timeline : Timeline K V H) :
    ReflTransGen Sweeper.Step timeline.state timeline.plan.state := by
  have obeyed : ReflTransGen Sweeper.Step timeline.state
      (timeline.cache, Sweeper.obey timeline.cache timeline.phase) := by
    unfold Sweeper.obey
    split
    · exact .single (.stop timeline.cache timeline.phase)
    · exact .refl
  unfold plan
  split
  · rename_i planning
    rw [planning] at obeyed
    exact obeyed.trans (Sweeper.steps_plan timeline.cache)
  · exact obeyed

theorem steps_settle (timeline : Timeline K V H) :
    ReflTransGen Sweeper.Step timeline.state timeline.settle.state := by
  have heard := Sweeper.steps_hear timeline.plan.cache timeline.plan.phase
  rw [settle_eq]
  exact (timeline.steps_plan.trans heard).trans (steps_plan (timeline.plan.withState _))

/-- Real time moves a clock that shows it, and does nothing to another one. -/
theorem steps_moveTo (timeline : Timeline K V H) (now : Instant) :
    ReflTransGen Sweeper.Step timeline.state (timeline.moveTo now).state := by
  unfold moveTo
  dsimp only [state]
  split
  · exact .single (.client _ _ (.moveClock _))
  · exact .refl

theorem steps_ringAt (script : H → K → V → Script K V H) (depth : Nat)
    {timeline : Timeline K V H} {alarm : Instant} (rings : timeline.alarm? = some alarm) :
    ReflTransGen Sweeper.Step timeline.state (timeline.ringAt script depth alarm).state := by
  have moved := timeline.steps_moveTo alarm
  unfold alarm? at rings
  split at rings
  · rename_i reading sleep parked
    have began : (timeline.moveTo alarm).state =
        ((timeline.moveTo alarm).cache, .parked reading sleep) := congrArg (Prod.mk _) parked
    have rang := Sweeper.steps_ring script depth (timeline.moveTo alarm).cache reading sleep
    rw [began] at moved
    rw [ringAt_eq]
    exact (moved.trans rang).trans (steps_settle ((timeline.moveTo alarm).withState _))
  · cases rings

theorem steps_passUntil (script : H → K → V → Script K V H) (depth : Nat)
    (condition : Cache K V H → Bool) (latest : Instant) (timeline : Timeline K V H) :
    ReflTransGen Sweeper.Step timeline.state
      (timeline.passUntil script depth condition latest).state := by
  fun_induction passUntil script depth condition latest timeline with
  | case1 timeline holds => exact .refl
  | case2 timeline fails alarm rings ahead ih => exact (steps_ringAt script depth rings).trans ih
  | case3 timeline fails alarm rings behind => exact timeline.steps_moveTo latest
  | case4 timeline fails silent => exact timeline.steps_moveTo latest

theorem steps_act {α : Type} {timeline : Timeline K V H}
    {client : Cache K V H → Cache K V H × α}
    (acts : ReflTransGen Sweeper.Step timeline.state
      ((client timeline.cache).1, timeline.phase)) :
    ReflTransGen Sweeper.Step timeline.state (timeline.act client).1.state :=
  acts.trans (steps_settle (timeline.withState ((client timeline.cache).1, timeline.phase)))

theorem isSettled_passUntil (script : H → K → V → Script K V H) (depth : Nat)
    (condition : Cache K V H → Bool) (latest : Instant) {timeline : Timeline K V H}
    (settled : timeline.IsSettled) :
    (timeline.passUntil script depth condition latest).IsSettled := by
  fun_induction passUntil script depth condition latest timeline with
  | case1 timeline holds => exact settled
  | case2 timeline fails alarm rings ahead ih => exact ih (isSettled_settle _)
  | case3 timeline fails alarm rings behind => exact isSettled_moveTo settled latest
  | case4 timeline fails silent => exact isSettled_moveTo settled latest

/-! ## Runs -/

/-- The timelines that follow a timeline by calls, movements of the clock, and waiting. -/
inductive Follows (script : H → K → V → Script K V H) (depth : Nat) (begun : Timeline K V H) :
    Timeline K V H → Prop where
  | refl : Follows script depth begun begun
  | call {timeline : Timeline K V H} (follows : Follows script depth begun timeline)
      (request : Call K V H) :
      Follows script depth begun (timeline.act (·.perform script depth request)).1
  | advance {timeline : Timeline K V H} (follows : Follows script depth begun timeline)
      (duration : Duration) : Follows script depth begun (timeline.act (·.advance duration)).1
  | wait {timeline : Timeline K V H} (follows : Follows script depth begun timeline)
      (condition : Cache K V H → Bool) (latest : Instant) :
      Follows script depth begun (timeline.passUntil script depth condition latest)

namespace Follows

variable {script : H → K → V → Script K V H} {depth : Nat} {begun timeline : Timeline K V H}

theorem steps (follows : Follows script depth begun timeline) :
    ReflTransGen Sweeper.Step begun.state timeline.state := by
  induction follows with
  | refl => exact .refl
  | @call timeline _ request ih =>
      have performed := (Cache.perform_reaches script depth request timeline.cache).1
      exact ih.trans (steps_act (Sweeper.steps_of_reaches performed timeline.phase))
  | @advance timeline _ duration ih =>
      refine ih.trans (steps_act ?_)
      unfold Cache.advance
      split
      · exact .single (.client _ _ (.moveClock _))
      · exact .refl
  | wait _ condition latest ih => exact ih.trans (steps_passUntil script depth condition latest _)

theorem isSettled (follows : Follows script depth begun timeline) (settled : begun.IsSettled) :
    timeline.IsSettled := by
  induction follows with
  | refl => exact settled
  | call _ request _ => exact isSettled_settle _
  | advance _ duration _ => exact isSettled_settle _
  | wait _ condition latest ih => exact isSettled_passUntil script depth condition latest ih

end Follows

/-- Between the actions of a client the sweeper has stopped, or sleeps past no deadline. -/
theorem Follows.in_time {script : H → K → V → Script K V H} {depth : Nat} {cache : Cache K V H}
    {realClock : Bool} {timeline : Timeline K V H} (valid : cache.store.Valid)
    (follows : Follows script depth (start cache realClock) timeline) :
    timeline.phase = .stopped ∨ ∃ reading sleep, timeline.phase = .parked reading sleep ∧
      Sweeper.InTimeForAll timeline.cache.store reading sleep := by
  have began : Sweeper.Watchful (cache, .planning) :=
    .of_unparked valid (by rintro _ _ ⟨⟩)
  have steps := (steps_settle { cache, realClock }).trans follows.steps
  have watchful : Sweeper.Watchful timeline.state := began.run steps
  obtain stopped | ⟨⟨reading, sleep, parked⟩, silent⟩ := follows.isSettled (isSettled_settle _)
  · exact .inl stopped
  · exact .inr ⟨reading, sleep, parked, watchful.awake reading sleep parked silent⟩

end Timeline

end ExpiringCache
