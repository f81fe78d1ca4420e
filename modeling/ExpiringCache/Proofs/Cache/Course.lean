import ExpiringCache.Proofs.Cache.Invariant

/-!
# Courses

The changes that a call, a handler, a pass or a whole session consists of, one
after the other.  Carried out in order they lead to where the session leads, and
each state in which the lock is free comes after some of them.
-/

namespace ExpiringCache

namespace Script

variable {K V H : Type} [DecidableEq K]

/-- The changes of a script.  `changes` lists those of a call. -/
def course (perform : Call K V H → Cache K V H → Cache K V H × Except Fault (Answer K V))
    (changes : Call K V H → Cache K V H → List (Change K V H)) :
    Script K V H → Cache K V H → List (Change K V H)
  | .done, _ => []
  | .fail, _ => []
  | .note event rest, cache =>
      .client (.note [event]) :: rest.course perform changes (cache.record [event])
  | .call request next, cache =>
      changes request cache ++
        match perform request cache with
        | (_, .error _) => []
        | (reached, .ok answer) => (next answer).course perform changes reached

end Script

namespace Cache

variable {K V H : Type} [DecidableEq K]

/-- A section that needs the time; there is none if the clock cannot be read. -/
def courseAtReading (cache : Cache K V H) (entered : Instant → Change K V H) :
    List (Change K V H) :=
  match cache.clock.now with
  | .error _ => []
  | .ok now => [entered now]

def callCourse (script : H → K → V → Script K V H) (depth : Nat) (call : Call K V H)
    (cache : Cache K V H) : List (Change K V H) :=
  match call with
  | .set key value lifetime =>
      match cache.clock.now with
      | .error _ => []
      | .ok now =>
          .client (.write key value lifetime now) ::
            match cache.writeAt key value lifetime now with
            | (_, none) => []
            | (written, some handler) =>
                match depth with
                | 0 => []
                | inner + 1 =>
                    .client (.note [.inserted key value]) ::
                      (script handler key value).course (perform script inner)
                        (callCourse script inner) (written.record [.inserted key value])
  | .get key => cache.courseAtReading fun now => .client (.read key now)
  | .getLease key => cache.courseAtReading fun now => .client (.read key now)
  | .touch key => cache.courseAtReading fun now => .client (.touch key now)
  | .remove key => [.client (.remove key)]
  | .count => []
  | .keys => []
  | .counters => []
  | .setSharedLifetime duration => [.client (.setSharedLifetime duration)]
  | .skipRenewal skip => [.client (.setSkipRenewal skip)]
  | .onInsert handler => [.client (.install { cache.handlers with onInsert := some handler })]
  | .onEvict handler => [.client (.install { cache.handlers with onEvict := some handler })]
  | .onCheck verdict => [.client (.install { cache.handlers with check := some { verdict } })]
  | .purge => [.client .purge]
  | .close =>
      .client .markClosed :: if cache.store.closed then [] else [.client .purge]
  | .isClosed => []

def evictedCourse (script : H → K → V → Script K V H) (depth : Nat) (handler : H) :
    List (K × V) → Cache K V H → List (Change K V H)
  | [], _ => []
  | (key, value) :: rest, cache =>
      .client (.note [.evicted key value]) ::
        (script handler key value).course (perform script depth) (callCourse script depth)
            (cache.record [.evicted key value]) ++
        evictedCourse script depth handler rest
          ((script handler key value).run .evictHandlerFailed (perform script depth)
            (cache.record [.evicted key value])).1

def actCourse (script : H → K → V → Script K V H) (depth : Nat) (cache : Cache K V H)
    (clock : Clock) (action : Action K V H) : List (Change K V H) :=
  .client (.moveClock clock) ::
    match action with
    | .call call => { cache with clock }.callCourse script depth call
    | .planSleep => { cache with clock }.courseAtReading .planSleep
    | .sweep =>
        match clock.now with
        | .error _ => []
        | .ok now =>
            let (swept, batch) := { cache with clock }.sweepAt now
            .sweep now :: (swept.handlers.onEvict.toList.flatMap fun handler =>
              swept.evictedCourse script depth handler batch)

def sessionCourse (script : H → K → V → Script K V H) (depth : Nat) :
    List (Clock × Action K V H) → Cache K V H → List (Change K V H)
  | [], _ => []
  | (clock, action) :: rest, cache =>
      cache.actCourse script depth clock action ++
        sessionCourse script depth rest (cache.act script depth clock action)

/-- The changes lead from one state to another and pass through the states of a trail. -/
structure Traverses (cache : Cache K V H) (changes : List (Change K V H))
    (trail : List (Cache K V H)) (state : Cache K V H) : Prop where
  arrives : cache.afterAll changes = state
  passes : ∀ passed ∈ trail, ∃ early, early <+: changes ∧ cache.afterAll early = passed

namespace Traverses

variable {first second third : Cache K V H} {early late : List (Change K V H)}
  {before behind : List (Cache K V H)}

theorem refl (cache : Cache K V H) : cache.Traverses [] [] cache where
  arrives := rfl
  passes := by
    intro passed member
    cases member

/-- The first state may be listed. -/
theorem start (run : first.Traverses early before second) :
    first.Traverses early (first :: before) second where
  arrives := run.arrives
  passes := by
    intro passed member
    rcases List.mem_cons.mp member with rfl | later
    · exact ⟨[], List.nil_prefix, rfl⟩
    · exact run.passes passed later

/-- The last state may be listed. -/
theorem finish (run : first.Traverses early before second) :
    first.Traverses early (before ++ [second]) second where
  arrives := run.arrives
  passes := by
    intro passed member
    rcases List.mem_append.mp member with inside | last
    · exact run.passes passed inside
    · obtain rfl := List.mem_singleton.mp last
      exact ⟨early, List.prefix_rfl, run.arrives⟩

theorem append (left : first.Traverses early before second)
    (right : second.Traverses late behind third) :
    first.Traverses (early ++ late) (before ++ behind) third where
  arrives := by
    rw [afterAll, List.foldl_append]
    exact (congrArg (List.foldl after · late) left.arrives).trans right.arrives
  passes := by
    intro passed member
    rcases List.mem_append.mp member with inLeft | inRight
    · obtain ⟨some, isPrefix, reached⟩ := left.passes passed inLeft
      exact ⟨some, isPrefix.trans (List.prefix_append early late), reached⟩
    · obtain ⟨some, isPrefix, reached⟩ := right.passes passed inRight
      refine ⟨early ++ some, (List.prefix_append_right_inj early).mpr isPrefix, ?_⟩
      rw [afterAll, List.foldl_append]
      exact (congrArg (List.foldl after · some) left.arrives).trans reached

theorem single (cache : Cache K V H) (change : Change K V H) :
    cache.Traverses [change] [] (cache.after change) where
  arrives := rfl
  passes := by
    intro passed member
    cases member

/-- A change before a run. -/
theorem cons (change : Change K V H) (run : (first.after change).Traverses late behind third) :
    first.Traverses (change :: late) behind third :=
  (single first change).append run

end Traverses

/-! ## Calls -/

theorem traverses_atReading {α : Type} {cache : Cache K V H}
    {body : Instant → Cache K V H × Except Fault α} {entered : Instant → Change K V H}
    (same : ∀ now, (body now).1 = cache.after (entered now)) :
    cache.Traverses (cache.courseAtReading entered) [] (cache.atReading body).1 := by
  unfold courseAtReading atReading
  cases cache.clock.now with
  | error fault => exact .refl cache
  | ok now =>
      simp only [same now]
      exact .single cache (entered now)

theorem close_traverses (cache : Cache K V H) :
    cache.Traverses (.client .markClosed :: if cache.store.closed then [] else [.client .purge])
      [cache.markClosed.1, cache.close] cache.close := by
  have marked : cache.Traverses [.client .markClosed] [cache.markClosed.1] cache.markClosed.1 :=
    (Traverses.single cache (.client .markClosed)).finish
  have purged : cache.markClosed.1.Traverses
      (if cache.store.closed then [] else [.client .purge]) [cache.close] cache.close := by
    rw [close_eq]
    split
    · rename_i closed
      rw [markClosed, if_pos closed]
      exact (Traverses.refl cache).finish
    · exact (Traverses.single _ (.client .purge)).finish
  exact marked.append purged

/-- A call that runs no handler goes through its changes. -/
theorem plain_traverses (script : H → K → V → Script K V H) (depth : Nat) {call : Call K V H}
    (plain : ∀ key value lifetime, call ≠ .set key value lifetime) (cache : Cache K V H) :
    cache.Traverses (cache.callCourse script depth call) (cache.callTrail script depth call)
      (cache.perform script depth call).1 := by
  unfold callCourse callTrail perform
  cases call with
  | set key value lifetime => exact absurd rfl (plain key value lifetime)
  | get key => exact (traverses_atReading fun _ => rfl).finish
  | getLease key => exact (traverses_atReading fun _ => rfl).finish
  | touch key => exact (traverses_atReading fun _ => rfl).finish
  | keys =>
      have still : (cache.atReading fun now =>
          (cache, Except.ok (Answer.keys (cache.store.liveKeys now) : Answer K V))).1 = cache :=
        atReading_keeps (P := fun reached => reached = cache) rfl fun _ => rfl
      dsimp only
      rw [still]
      exact (Traverses.refl cache).finish
  | count => exact (Traverses.refl cache).finish
  | counters => exact (Traverses.refl cache).finish
  | isClosed => exact (Traverses.refl cache).finish
  | close => exact close_traverses cache
  | _ => exact (Traverses.single cache _).finish

end Cache

/-- A script goes through its changes if its calls do. -/
theorem Script.run_traverses {K V H : Type} [DecidableEq K] (failure : Fault)
    {perform : Call K V H → Cache K V H → Cache K V H × Except Fault (Answer K V)}
    {passed : Call K V H → Cache K V H → List (Cache K V H)}
    {changes : Call K V H → Cache K V H → List (Change K V H)}
    (performed : ∀ call (cache : Cache K V H),
      cache.Traverses (changes call cache) (passed call cache) (perform call cache).1)
    (script : Script K V H) (cache : Cache K V H) :
    cache.Traverses (script.course perform changes cache) (script.trail perform passed cache)
      (script.run failure perform cache).1 := by
  induction script generalizing cache with
  | done => exact (Cache.Traverses.refl cache).finish
  | fail => exact (Cache.Traverses.refl cache).finish
  | note event rest ih =>
      exact (Cache.Traverses.cons (.client (.note [event])) (ih (cache.record [event]))).start
  | call request next ih =>
      have first := performed request cache
      unfold run trail course
      cases outcome : perform request cache with
      | mk middle answer =>
          rw [outcome] at first
          cases answer with
          | error fault => exact (first.append (.refl middle)).start
          | ok answer => exact (first.append (ih answer middle)).start

namespace Cache

variable {K V H : Type} [DecidableEq K]

/-- A write goes through its changes if the calls of its handler do. -/
theorem set_traverses (script : H → K → V → Script K V H) (depth : Nat)
    (inside : ∀ inner, depth = inner + 1 → ∀ call (cache : Cache K V H),
      cache.Traverses (cache.callCourse script inner call) (cache.callTrail script inner call)
        (cache.perform script inner call).1)
    (key : K) (value : V) (lifetime : Lifetime) (cache : Cache K V H) :
    cache.Traverses (cache.callCourse script depth (.set key value lifetime))
      (cache.callTrail script depth (.set key value lifetime))
      (cache.perform script depth (.set key value lifetime)).1 := by
  unfold callCourse callTrail perform atReading
  cases cache.clock.now with
  | error fault => exact (Traverses.refl cache).finish
  | ok now =>
      have first := (Traverses.single cache (.client (.write key value lifetime now))).finish
      change cache.Traverses _ [(cache.writeAt key value lifetime now).1]
        (cache.writeAt key value lifetime now).1 at first
      simp only
      generalize cache.writeAt key value lifetime now = outcome at first ⊢
      obtain ⟨written, told⟩ := outcome
      cases told with
      | none => exact first
      | some handler =>
          cases depth with
          | zero => exact first
          | succ inner =>
              have ran := Script.run_traverses .insertHandlerFailed (inside inner rfl)
                (script handler key value) (written.record [.inserted key value])
              exact first.append (Traverses.cons (.client (.note [.inserted key value])) ran)

/-- A call goes through its changes and those of its handlers. -/
theorem perform_traverses (script : H → K → V → Script K V H) (depth : Nat) (call : Call K V H)
    (cache : Cache K V H) :
    cache.Traverses (cache.callCourse script depth call) (cache.callTrail script depth call)
      (cache.perform script depth call).1 := by
  induction depth generalizing call cache with
  | zero =>
      cases call with
      | set key value lifetime => exact set_traverses script 0 nofun key value lifetime cache
      | _ => exact plain_traverses script 0 (by rintro _ _ _ ⟨⟩) cache
  | succ inner ih =>
      cases call with
      | set key value lifetime =>
          apply set_traverses script (inner + 1)
          rintro smaller ⟨⟩
          exact ih
      | _ => exact plain_traverses script (inner + 1) (by rintro _ _ _ ⟨⟩) cache

theorem announceEvicted_traverses (script : H → K → V → Script K V H) (depth : Nat) (handler : H)
    (batch : List (K × V)) (cache : Cache K V H) :
    cache.Traverses (cache.evictedCourse script depth handler batch)
      (cache.evictedTrail script depth handler batch)
      (cache.announceEvicted script depth handler batch) := by
  induction batch generalizing cache with
  | nil => exact (Traverses.refl cache).finish
  | cons pair rest ih =>
      obtain ⟨key, value⟩ := pair
      have ran := Script.run_traverses .evictHandlerFailed (perform_traverses script depth)
        (script handler key value) (cache.record [.evicted key value])
      exact (Traverses.cons (.client (.note [.evicted key value])) ran).append (ih _)

/-! ## Sessions -/

theorem act_traverses (script : H → K → V → Script K V H) (depth : Nat) (cache : Cache K V H)
    (clock : Clock) (action : Action K V H) :
    cache.Traverses (cache.actCourse script depth clock action)
      (cache.actTrail script depth clock action) (cache.act script depth clock action) := by
  apply Traverses.cons (.client (.moveClock clock))
  change { cache with clock }.Traverses _ _ _
  cases action with
  | call call => exact perform_traverses script depth call { cache with clock }
  | planSleep => exact (traverses_atReading fun _ => rfl).finish
  | sweep =>
      unfold act actTrail sweep atReading
      simp only
      cases clock.now with
      | error fault => exact (Traverses.refl _).finish
      | ok now =>
          have first := (Traverses.single { cache with clock } (.sweep now)).finish
          change Traverses _ _ [({ cache with clock }.sweepAt now).1]
            ({ cache with clock }.sweepAt now).1 at first
          simp only
          generalize { cache with clock }.sweepAt now = outcome at first ⊢
          obtain ⟨swept, batch⟩ := outcome
          simp only at first ⊢
          cases swept.handlers.onEvict with
          | none => exact first
          | some handler =>
              rw [Option.toList_some, List.flatMap_singleton, List.flatMap_singleton]
              exact first.append (announceEvicted_traverses script depth handler batch swept)

/-- A session goes through its changes, and each state of its trail comes after some of them. -/
theorem session_traverses (script : H → K → V → Script K V H) (depth : Nat)
    (session : List (Clock × Action K V H)) (cache : Cache K V H) :
    ∃ state, cache.Traverses (cache.sessionCourse script depth session)
      (cache.sessionTrail script depth session) state := by
  induction session generalizing cache with
  | nil => exact ⟨cache, (Traverses.refl cache).finish⟩
  | cons first rest ih =>
      obtain ⟨clock, action⟩ := first
      obtain ⟨state, later⟩ := ih (cache.act script depth clock action)
      exact ⟨state, ((act_traverses script depth cache clock action).append later).start⟩

end Cache

end ExpiringCache
