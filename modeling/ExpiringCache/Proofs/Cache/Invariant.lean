import ExpiringCache.Proofs.Cache.Section
import ExpiringCache.Proofs.Store.Valid

/-!
# The invariant of a cache

Whoever gets the lock finds a valid store, whatever was done before, at which
readings of the clock, and whatever checks and handlers answered and called.
-/

namespace ExpiringCache

namespace Cache

variable {K V H : Type} [DecidableEq K] {cache : Cache K V H}

/-! ## One section -/

theorem store_writeAt (cache : Cache K V H) (key : K) (value : V) (lifetime : Lifetime)
    (now : Instant) :
    (cache.writeAt key value lifetime now).1.store =
      if cache.store.closed then cache.store
      else (cache.store.write key value lifetime now).1 := by
  unfold writeAt
  split <;> rfl

theorem store_touchAt (cache : Cache K V H) (key : K) (now : Instant) :
    (cache.touchAt key now).1.store = (cache.store.touch key now).1 := by
  unfold touchAt Store.touch
  cases cache.store.liveSlot? key now <;> rfl

theorem valid_writeAt (valid : cache.store.Valid) (key : K) (value : V) (lifetime : Lifetime)
    (now : Instant) : (cache.writeAt key value lifetime now).1.store.Valid := by
  rw [store_writeAt]
  split
  · exact valid
  · exact valid.write key value lifetime now

theorem valid_readAt (valid : cache.store.Valid) (key : K) (now : Instant) :
    (cache.readAt key now).1.store.Valid := by
  have looked := valid.lookup key now
  unfold readAt
  split
  · exact valid
  · split
    · rename_i store found
      rw [found] at looked
      exact looked
    · rename_i store id found
      rw [found] at looked
      exact looked.renewOnRead id now

theorem valid_markClosed (valid : cache.store.Valid) : cache.markClosed.1.store.Valid := by
  unfold markClosed
  split
  · exact valid
  · exact valid.of_same rfl rfl

theorem valid_enter (valid : cache.store.Valid) (entered : Section K V H) :
    (cache.enter entered).store.Valid := by
  cases entered with
  | write key value lifetime now => exact valid_writeAt valid key value lifetime now
  | read key now => exact valid_readAt valid key now
  | touch key now =>
      rw [enter, store_touchAt]
      exact valid.touch key now
  | remove key => exact valid.remove key
  | setSharedLifetime duration => exact valid.of_same rfl rfl
  | setSkipRenewal skip => exact valid.of_same rfl rfl
  | install handlers => exact valid
  | purge => exact cache.store.valid_purge
  | markClosed => exact valid_markClosed valid
  | note events => exact valid
  | moveClock clock => exact valid

theorem valid_after (valid : cache.store.Valid) (change : Change K V H) :
    (cache.after change).store.Valid := by
  cases change with
  | client entered => exact valid_enter valid entered
  | planSleep now => exact valid.of_same rfl rfl
  | sweep now => exact valid.sweep cache.handlers.check now
  | takeWake => exact valid

theorem valid_afterAll (valid : cache.store.Valid) (changes : List (Change K V H)) :
    (cache.afterAll changes).store.Valid := by
  induction changes generalizing cache with
  | nil => exact valid
  | cons change rest ih => exact ih (valid_after valid change)

theorem valid_create (clock : Clock) (sharedLifetime : Option Duration) (skipRenewal : Bool)
    (handlers : Handlers K V H) :
    (create clock sharedLifetime skipRenewal handlers).store.Valid :=
  Store.valid_of_empty rfl rfl

theorem Reaches.valid {state : Cache K V H} (reached : cache.Reaches state)
    (valid : cache.store.Valid) : state.store.Valid :=
  reached.keeps (P := fun cache => cache.store.Valid)
    (fun _ entered valid => valid_enter valid entered) valid

/-! ## Calls are sequences of sections -/

omit [DecidableEq K] in
theorem close_eq (cache : Cache K V H) :
    cache.close = if cache.store.closed then cache else cache.markClosed.1.purge := by
  unfold close markClosed
  by_cases closed : cache.store.closed = true <;> simp [closed]

theorem Reaches.close (cache : Cache K V H) : cache.Reaches cache.close := by
  rw [close_eq]
  split
  · exact .refl cache
  · exact (Reaches.enter cache .markClosed).trans (.enter _ .purge)

theorem Reaches.writeAt (cache : Cache K V H) (key : K) (value : V) (lifetime : Lifetime)
    (now : Instant) : cache.Reaches (cache.writeAt key value lifetime now).1 :=
  .enter cache (.write key value lifetime now)

/-- A call that runs no handler is one section, two for closing, or none. -/
theorem Reaches.perform_plain (script : H → K → V → Script K V H) (depth : Nat)
    {call : Call K V H} (plain : ∀ key value lifetime, call ≠ .set key value lifetime)
    (cache : Cache K V H) : cache.Reaches (cache.perform script depth call).1 := by
  unfold perform
  cases call with
  | set key value lifetime => exact absurd rfl (plain key value lifetime)
  | get key => exact atReading_keeps (.refl cache) fun now => .enter cache (.read key now)
  | getLease key => exact atReading_keeps (.refl cache) fun now => .enter cache (.read key now)
  | touch key => exact atReading_keeps (.refl cache) fun now => .enter cache (.touch key now)
  | remove key => exact .enter cache (.remove key)
  | count => exact .refl cache
  | keys => exact atReading_keeps (.refl cache) fun _ => .refl cache
  | counters => exact .refl cache
  | setSharedLifetime duration => exact .enter cache (.setSharedLifetime duration)
  | skipRenewal skip => exact .enter cache (.setSkipRenewal skip)
  | onInsert handler =>
      exact .enter cache (.install { cache.handlers with onInsert := some handler })
  | onEvict handler => exact .enter cache (.install { cache.handlers with onEvict := some handler })
  | onCheck verdict =>
      exact .enter cache (.install { cache.handlers with check := some { verdict } })
  | purge => exact .enter cache .purge
  | close => exact .close cache
  | isClosed => exact .refl cache

end Cache

namespace Script

variable {K V H : Type} [DecidableEq K]

/-- A script whose calls are sequences of sections is one itself, and so is each of its states. -/
theorem run_reaches (failure : Fault)
    {perform : Call K V H → Cache K V H → Cache K V H × Except Fault (Answer K V)}
    {passed : Call K V H → Cache K V H → List (Cache K V H)}
    (performed : ∀ call (cache : Cache K V H), cache.Reaches (perform call cache).1)
    (listed : ∀ call (cache : Cache K V H), ∀ state ∈ passed call cache, cache.Reaches state)
    (script : Script K V H) (cache : Cache K V H) :
    cache.Reaches (script.run failure perform cache).1 ∧
      ∀ state ∈ script.trail perform passed cache, cache.Reaches state := by
  induction script generalizing cache with
  | done => exact ⟨.refl cache, by simp [trail, Cache.Reaches.refl]⟩
  | fail => exact ⟨.refl cache, by simp [trail, Cache.Reaches.refl]⟩
  | note event rest ih =>
      have noted := Cache.Reaches.record cache [event]
      obtain ⟨ran, passes⟩ := ih (cache.record [event])
      refine ⟨noted.trans ran, ?_⟩
      intro state member
      rcases List.mem_cons.mp member with rfl | later
      · exact .refl state
      · exact noted.trans (passes state later)
  | call request next ih =>
      have reached := performed request cache
      unfold run trail
      cases outcome : perform request cache with
      | mk middle answer =>
          rw [outcome] at reached
          cases answer with
          | error fault =>
              refine ⟨reached, ?_⟩
              intro state member
              simp only [List.append_nil, List.mem_cons] at member
              rcases member with rfl | inside
              · exact .refl state
              · exact listed request cache state inside
          | ok answer =>
              obtain ⟨ran, passes⟩ := ih answer middle
              refine ⟨reached.trans ran, ?_⟩
              intro state member
              rcases List.mem_append.mp member with early | later
              · rcases List.mem_cons.mp early with rfl | inside
                · exact .refl state
                · exact listed request cache state inside
              · exact reached.trans (passes state later)

end Script

namespace Cache

variable {K V H : Type} [DecidableEq K] {cache : Cache K V H}

theorem plain_reaches (script : H → K → V → Script K V H) (depth : Nat) {call : Call K V H}
    (plain : ∀ key value lifetime, call ≠ .set key value lifetime) (cache : Cache K V H) :
    cache.Reaches (cache.perform script depth call).1 ∧
      ∀ state ∈ cache.callTrail script depth call, cache.Reaches state := by
  have performed := Reaches.perform_plain script depth plain cache
  refine ⟨performed, ?_⟩
  intro state member
  unfold callTrail at member
  cases call with
  | set key value lifetime => exact absurd rfl (plain key value lifetime)
  | close =>
      rcases List.mem_pair.mp member with rfl | rfl
      · exact .enter cache .markClosed
      · exact .close cache
  | _ =>
      obtain rfl := List.mem_singleton.mp member
      exact performed

/-- A call is a sequence of sections and notes, and so is each state of its trail. -/
theorem perform_reaches (script : H → K → V → Script K V H) (depth : Nat) (call : Call K V H)
    (cache : Cache K V H) :
    cache.Reaches (cache.perform script depth call).1 ∧
      ∀ state ∈ cache.callTrail script depth call, cache.Reaches state := by
  induction depth generalizing call cache with
  | zero =>
      cases call with
      | set key value lifetime =>
          unfold perform callTrail
          simp only [atReading]
          cases cache.clock.now with
          | error fault => exact ⟨.refl cache, by simp [Reaches.refl]⟩
          | ok now =>
              have wrote := Reaches.writeAt cache key value lifetime now
              simp only
              generalize cache.writeAt key value lifetime now = outcome at wrote ⊢
              obtain ⟨written, told⟩ := outcome
              cases told <;> exact ⟨wrote, by simpa using wrote⟩
      | _ => exact plain_reaches script 0 (by rintro _ _ _ ⟨⟩) cache
  | succ inner ih =>
      cases call with
      | set key value lifetime =>
          unfold perform callTrail
          simp only [atReading]
          cases cache.clock.now with
          | error fault => exact ⟨.refl cache, by simp [Reaches.refl]⟩
          | ok now =>
              have wrote := Reaches.writeAt cache key value lifetime now
              simp only
              generalize cache.writeAt key value lifetime now = outcome at wrote ⊢
              obtain ⟨written, told⟩ := outcome
              cases told with
              | none => exact ⟨wrote, by simpa using wrote⟩
              | some handler =>
                  have noted := wrote.trans (.record written [.inserted key value])
                  obtain ⟨ran, passes⟩ := Script.run_reaches .insertHandlerFailed
                    (fun call cache => (ih call cache).1) (fun call cache => (ih call cache).2)
                    (script handler key value) (written.record [.inserted key value])
                  refine ⟨noted.trans ran, ?_⟩
                  intro state member
                  rcases List.mem_cons.mp member with rfl | later
                  · exact wrote
                  · exact noted.trans (passes state later)
      | _ => exact plain_reaches script (inner + 1) (by rintro _ _ _ ⟨⟩) cache

/-- Telling a handler of a batch is a sequence of sections and notes. -/
theorem announceEvicted_reaches (script : H → K → V → Script K V H) (depth : Nat) (handler : H)
    (batch : List (K × V)) (cache : Cache K V H) :
    cache.Reaches (cache.announceEvicted script depth handler batch) ∧
      ∀ state ∈ cache.evictedTrail script depth handler batch, cache.Reaches state := by
  induction batch generalizing cache with
  | nil => exact ⟨.refl cache, by simp [evictedTrail, Reaches.refl]⟩
  | cons pair rest ih =>
      obtain ⟨key, value⟩ := pair
      have noted := Reaches.record cache [.evicted key value]
      obtain ⟨ran, passes⟩ := Script.run_reaches .evictHandlerFailed
        (fun call cache => (perform_reaches script depth call cache).1)
        (fun call cache => (perform_reaches script depth call cache).2)
        (script handler key value) (cache.record [.evicted key value])
      obtain ⟨announced, later⟩ := ih ((script handler key value).run .evictHandlerFailed
        (perform script depth) (cache.record [.evicted key value])).1
      refine ⟨(noted.trans ran).trans announced, ?_⟩
      intro state member
      rcases List.mem_append.mp member with inside | behind
      · exact noted.trans (passes state inside)
      · exact (noted.trans ran).trans (later state behind)

/-! ## Sessions -/

theorem valid_planSleep (valid : cache.store.Valid) : cache.planSleep.1.store.Valid :=
  atReading_keeps (P := fun cache => cache.store.Valid) valid fun _ => valid.of_same rfl rfl

/-- An action keeps the store valid, and it is valid in each state of the trail. -/
theorem valid_act (script : H → K → V → Script K V H) (depth : Nat) (valid : cache.store.Valid)
    (clock : Clock) (action : Action K V H) :
    (cache.act script depth clock action).store.Valid ∧
      ∀ state ∈ cache.actTrail script depth clock action, state.store.Valid := by
  cases action with
  | call call =>
      obtain ⟨performed, passes⟩ := perform_reaches script depth call { cache with clock }
      exact ⟨performed.valid valid, fun state member => (passes state member).valid valid⟩
  | planSleep =>
      have planned : { cache with clock }.planSleep.1.store.Valid := valid_planSleep valid
      refine ⟨planned, ?_⟩
      intro state member
      obtain rfl := List.mem_singleton.mp member
      exact planned
  | sweep =>
      unfold act actTrail sweep atReading
      simp only
      cases clock.now with
      | error fault =>
          refine ⟨valid, ?_⟩
          intro state member
          obtain rfl := List.mem_singleton.mp member
          exact valid
      | ok now =>
          have passed : ({ cache with clock }.sweepAt now).1.store.Valid :=
            valid.sweep cache.handlers.check now
          simp only
          generalize { cache with clock }.sweepAt now = outcome at passed ⊢
          obtain ⟨swept, batch⟩ := outcome
          simp only at passed ⊢
          cases swept.handlers.onEvict with
          | none => exact ⟨passed, by simpa using passed⟩
          | some handler =>
              obtain ⟨announced, passes⟩ :=
                announceEvicted_reaches script depth handler batch swept
              refine ⟨announced.valid passed, ?_⟩
              intro state member
              rw [Option.toList_some, List.flatMap_singleton] at member
              rcases List.mem_cons.mp member with rfl | later
              · exact passed
              · exact (passes state later).valid passed

theorem valid_sessionTrail (script : H → K → V → Script K V H) (depth : Nat)
    (session : List (Clock × Action K V H)) (valid : cache.store.Valid) :
    ∀ state ∈ cache.sessionTrail script depth session, state.store.Valid := by
  induction session generalizing cache with
  | nil => simpa [sessionTrail] using valid
  | cons first rest ih =>
      obtain ⟨clock, action⟩ := first
      obtain ⟨acted, passes⟩ := valid_act script depth valid clock action
      intro state member
      rcases List.mem_append.mp member with early | later
      · rcases List.mem_cons.mp early with rfl | inside
        · exact valid
        · exact passes state inside
      · exact ih acted state later

/--
The store of a new cache is valid whenever the lock is free: after every
sequence of critical sections, in whichever order and at whichever readings of
the clock they come, and in every state that a session of calls, plans and
passes shows to its handlers.
-/
theorem store_valid_whenever_unlocked (clock : Clock) (sharedLifetime : Option Duration)
    (skipRenewal : Bool) (handlers : Handlers K V H) :
    (∀ changes : List (Change K V H),
      ((create clock sharedLifetime skipRenewal handlers).afterAll changes).store.Valid) ∧
    ∀ (script : H → K → V → Script K V H) (depth : Nat)
      (session : List (Clock × Action K V H)),
      ∀ state ∈ (create clock sharedLifetime skipRenewal handlers).sessionTrail script depth
        session, state.store.Valid := by
  have start := valid_create clock sharedLifetime skipRenewal handlers
  constructor
  · intro changes
    exact valid_afterAll start changes
  · intro script depth session
    exact valid_sessionTrail script depth session start

end Cache

end ExpiringCache
