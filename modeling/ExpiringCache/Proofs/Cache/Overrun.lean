import ExpiringCache.Proofs.Cache.Readers

/-!
# A clock that has run too far

Once its clock has run past the last instant, a cache stands still for everyone
who asks for the time, and goes on as ever for everyone who does not.  A clock
that would run past the longest duration stays where it is.
-/

namespace ExpiringCache

namespace Clock

theorem now_of_overrun {clock : Clock}
    (overrun : Duration.ofSeconds (Nat.pow 2 63) ≤ clock.elapsed) :
    clock.now = .error .instantOverflow := by
  have late : Instant.limit.nanos ≤ clock.start.nanos + clock.elapsed.nanos :=
    Nat.le_trans overrun (Nat.le_add_left _ _)
  rw [now, Instant.add?_eq_none_iff.mpr late]

theorem advance_of_overflow {clock : Clock} {duration : Duration}
    (overflow : Duration.limit.nanos ≤ clock.elapsed.nanos + duration.nanos) :
    clock.advance duration = .error .durationOverflow := by
  have tooLong : clock.elapsed.add? duration = none := by
    rw [Duration.add?, if_neg (Nat.not_lt.mpr overflow)]
  rw [advance, tooLong]

end Clock

/-- Whether a call asks for the time. -/
def Call.asksTime {K V H : Type} : Call K V H → Bool
  | .set _ _ _ => true
  | .get _ => true
  | .getLease _ => true
  | .touch _ => true
  | .keys => true
  | _ => false

def Action.asksTime {K V H : Type} : Action K V H → Bool
  | .call request => request.asksTime
  | .planSleep => true
  | .sweep => true

namespace Cache

variable {K V H : Type} [DecidableEq K] {cache : Cache K V H} (script : H → K → V → Script K V H)
  (depth : Nat)

def clocked (cache : Cache K V H) (clock : Clock) : Cache K V H := { cache with clock }

/-! ## One call -/

omit [DecidableEq K] in
theorem atReading_of_overrun {α : Type}
    (overrun : Duration.ofSeconds (Nat.pow 2 63) ≤ cache.clock.elapsed)
    (body : Instant → Cache K V H × Except Fault α) :
    cache.atReading body = (cache, .error .instantOverflow) := by
  rw [atReading, Clock.now_of_overrun overrun]

/-- A call that asks for the time fails before it does anything. -/
theorem perform_of_overrun
    (overrun : Duration.ofSeconds (Nat.pow 2 63) ≤ cache.clock.elapsed) {call : Call K V H}
    (asks : call.asksTime = true) :
    cache.perform script depth call = (cache, .error .instantOverflow) := by
  unfold perform
  cases call with
  | set key value lifetime => exact atReading_of_overrun overrun _
  | get key => exact atReading_of_overrun overrun _
  | getLease key => exact atReading_of_overrun overrun _
  | touch key => exact atReading_of_overrun overrun _
  | keys => exact atReading_of_overrun overrun _
  | _ => cases asks

omit [DecidableEq K] in
theorem close_clocked (cache : Cache K V H) (clock : Clock) :
    (cache.clocked clock).close = cache.close.clocked clock := by
  have same : (cache.clocked clock).store.closed = cache.store.closed := rfl
  unfold close markClosed
  rw [same]
  cases cache.store.closed <;> rfl

/-- A call that does not ask for the time does the same at any time. -/
theorem perform_untimed (cache : Cache K V H) {call : Call K V H}
    (untimed : call.asksTime = false) :
    ∃ reached answer, cache.Reaches reached ∧ ∀ clock : Clock,
      (cache.clocked clock).perform script depth call =
        (reached.clocked clock, .ok answer) := by
  have reaches := (perform_reaches script depth call cache).1
  unfold perform at reaches ⊢
  cases call with
  | set key value lifetime => cases untimed
  | get key => cases untimed
  | getLease key => cases untimed
  | touch key => cases untimed
  | keys => cases untimed
  | remove key => exact ⟨_, .flag (cache.remove key).2, reaches, fun _ => rfl⟩
  | count => exact ⟨_, .number cache.store.count, reaches, fun _ => rfl⟩
  | counters => exact ⟨_, .counters cache.store.counters, reaches, fun _ => rfl⟩
  | setSharedLifetime duration => exact ⟨_, .done, reaches, fun _ => rfl⟩
  | skipRenewal skip => exact ⟨_, .done, reaches, fun _ => rfl⟩
  | onInsert handler => exact ⟨_, .done, reaches, fun _ => rfl⟩
  | onEvict handler => exact ⟨_, .done, reaches, fun _ => rfl⟩
  | onCheck verdict => exact ⟨_, .done, reaches, fun _ => rfl⟩
  | purge => exact ⟨_, .done, reaches, fun _ => rfl⟩
  | close =>
      refine ⟨_, .done, reaches, fun clock => ?_⟩
      exact congrArg (·, Except.ok Answer.done) (close_clocked cache clock)
  | isClosed => exact ⟨_, .flag cache.store.closed, reaches, fun _ => rfl⟩

/-! ## Sessions -/

theorem act_of_overrun (cache : Cache K V H) {clock : Clock}
    (overrun : Duration.ofSeconds (Nat.pow 2 63) ≤ clock.elapsed) {action : Action K V H}
    (asks : action.asksTime = true) :
    cache.act script depth clock action = cache.clocked clock := by
  have late : Duration.ofSeconds (Nat.pow 2 63) ≤ (cache.clocked clock).clock.elapsed := overrun
  cases action with
  | call request => exact congrArg Prod.fst (perform_of_overrun script depth late asks)
  | planSleep => exact congrArg Prod.fst (atReading_of_overrun late _)
  | sweep => exact congrArg Prod.fst (atReading_of_overrun late _)

/-- A session does not look at the clock it finds, since each action brings its own. -/
theorem actAll_clocked (cache : Cache K V H) (found clock : Clock)
    (session : List (Clock × Action K V H)) :
    ((cache.clocked found).actAll script depth session).clocked clock =
      (cache.actAll script depth session).clocked clock := by
  cases session with
  | nil => rfl
  | cons step rest =>
      obtain ⟨brought, action⟩ := step
      cases action <;> rfl

/-- While the clock has run too far, a session leaves what its untimed calls leave. -/
theorem actAll_of_overrun (cache : Cache K V H) (clock : Clock)
    {session : List (Clock × Action K V H)}
    (overrun : ∀ step ∈ session, Duration.ofSeconds (Nat.pow 2 63) ≤ step.1.elapsed) :
    (cache.actAll script depth session).clocked clock =
      (cache.actAll script depth
        (session.filter fun step => !step.2.asksTime)).clocked clock := by
  induction session generalizing cache with
  | nil => rfl
  | cons step rest ih =>
      obtain ⟨first, later⟩ := List.forall_mem_cons.mp overrun
      have after := ih (cache.act script depth step.1 step.2) later
      have begins : cache.actAll script depth (step :: rest) =
          (cache.act script depth step.1 step.2).actAll script depth rest := rfl
      rw [begins, after, List.filter_cons]
      cases asks : step.2.asksTime with
      | true =>
          rw [act_of_overrun script depth cache first asks, actAll_clocked]
          rfl
      | false => rfl

/--
Once the clock has been moved on by 2^63 seconds, every call that asks for the
time, every plan and every pass fails and leaves the whole cache as it was, open
or closed.  A call that does not ask for the time answers as at any other time,
with the same effect and the store kept valid, and so a whole session leaves
what its untimed calls leave.  A move of the clock that would make its total too
long fails and leaves the whole cache as it was, the clock included.
-/
theorem overrun_leaves_no_trace (clock : Clock) (sharedLifetime : Option Duration)
    (skipRenewal : Bool) (handlers : Handlers K V H) (changes : List (Change K V H)) :
    let cache := (create clock sharedLifetime skipRenewal handlers).afterAll changes
    (Duration.ofSeconds (Nat.pow 2 63) ≤ cache.clock.elapsed →
        (∀ call : Call K V H, call.asksTime = true →
          cache.perform script depth call = (cache, .error .instantOverflow)) ∧
        cache.planSleep = (cache, .error .instantOverflow) ∧
        cache.sweep script depth = (cache, .error .instantOverflow)) ∧
      (∀ call : Call K V H, call.asksTime = false →
        ∃ (reached : Cache K V H) (answer : Answer K V), reached.store.Valid ∧ ∀ other : Clock,
          (cache.clocked other).perform script depth call =
            (reached.clocked other, .ok answer)) ∧
      (∀ session : List (Clock × Action K V H),
        (∀ step ∈ session, Duration.ofSeconds (Nat.pow 2 63) ≤ step.1.elapsed) →
        ∀ other : Clock, (cache.actAll script depth session).clocked other =
          (cache.actAll script depth
            (session.filter fun step => !step.2.asksTime)).clocked other) ∧
      ∀ duration : Duration,
        Duration.limit.nanos ≤ cache.clock.elapsed.nanos + duration.nanos →
          cache.advance duration = (cache, .error .durationOverflow) := by
  intro cache
  have valid : cache.store.Valid :=
    valid_afterAll (valid_create clock sharedLifetime skipRenewal handlers) changes
  refine ⟨?_, ?_, ?_, ?_⟩
  · intro overrun
    refine ⟨fun call asks => perform_of_overrun script depth overrun asks, ?_, ?_⟩
    · exact atReading_of_overrun overrun _
    · exact atReading_of_overrun overrun _
  · intro call untimed
    obtain ⟨reached, answer, reaches, same⟩ := perform_untimed script depth cache untimed
    exact ⟨reached, answer, reaches.valid valid, same⟩
  · intro session overrun other
    exact actAll_of_overrun script depth cache other overrun
  · intro duration overflow
    rw [advance, Clock.advance_of_overflow overflow]

/-- An entry that has never been looked at again since the clock ran away. -/
def runawayChanges : List (Change Nat Nat Unit) :=
  [.client (.write 1 10 (.lasting ⟨5⟩) ⟨0⟩),
    .client (.moveClock { elapsed := .ofSeconds (Nat.pow 2 63) })]

theorem runaway_stands_still :
    let script : Unit → Nat → Nat → Script Nat Nat Unit := fun _ _ _ => .done
    let cache := (create {} none false { onInsert := some () }).afterAll runawayChanges
    cache.store.count = 1 ∧
      cache.perform script 1 (.set 2 20 .inherited) = (cache, .error .instantOverflow) ∧
      cache.sweep script 1 = (cache, .error .instantOverflow) ∧
      (cache.perform script 1 (.remove 1)).2 = .ok (.flag true) ∧
      cache.advance (.ofSeconds (Nat.pow 2 63)) = (cache, .error .durationOverflow) := by
  intro script cache
  obtain ⟨stopped, -, -, refused⟩ := overrun_leaves_no_trace script 1 {} none false
    { onInsert := some () } runawayChanges
  have overrun : Duration.ofSeconds (Nat.pow 2 63) ≤ cache.clock.elapsed := by decide +kernel
  obtain ⟨performed, -, swept⟩ := stopped overrun
  refine ⟨by decide +kernel, performed _ rfl, swept, by decide +kernel, ?_⟩
  exact refused (.ofSeconds (Nat.pow 2 63)) (by decide +kernel)

end Cache

end ExpiringCache
