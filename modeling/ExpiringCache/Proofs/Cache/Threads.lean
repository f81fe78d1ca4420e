import Mathlib.Logic.Function.Basic
import Mathlib.Logic.Relation
import ExpiringCache.Proofs.Cache.Invariant

/-!
# Threads

Any number of clients and the sweeper share a cache.  Each thread works through
scripts, one critical section at a time, and the turns of the threads come in
any order.  A section may bring any reading of the clock.  Closing takes two
turns, one that marks the cache and a later one that purges it; the closer waits
for the sweeper in between, which only rules out orders that are allowed here.
-/

namespace ExpiringCache

/-- Two scripts one after the other; a failure of the first ends both. -/
def Script.andThen {K V H : Type} : Script K V H → Script K V H → Script K V H
  | .done, following => following
  | .fail, _ => .fail
  | .note event rest, following => .note event (rest.andThen following)
  | .call request next, following => .call request fun answer => (next answer).andThen following

theorem Script.andThen_done {K V H : Type} (task : Script K V H) : task.andThen .done = task := by
  induction task with
  | done => rfl
  | fail => rfl
  | note event rest ih => exact congrArg (Script.note event) ih
  | call request next ih => exact congrArg (Script.call request) (funext ih)

/-- A call that is one critical section and runs no handler. -/
def Call.isPlain {K V H : Type} : Call K V H → Bool
  | .set _ _ _ => false
  | .close => false
  | _ => true

structure Thread (K V H : Type) where
  /-- In a call of `close`, between marking the cache and the purge. -/
  closing : Bool := false
  /-- What is left to do, one script after the other. -/
  tasks : List (Script K V H) := []

/-- What a call of `close` does in one of its sections. -/
inductive Deed where
  | marks
  /-- Finds the cache closed and returns. -/
  | refuses
  | purges
  deriving DecidableEq

section

variable {K V H : Type} [DecidableEq K] (script : H → K → V → Script K V H)

/-- The handler of new entries at work, if it is told of one. -/
def announceInserted (told : Option H) (key : K) (value : V) : Script K V H :=
  match told with
  | none => .done
  | some handler => .note (.inserted key value) (script handler key value)

/-- The handler of evicted pairs at work on each pair of a batch. -/
def announcements (told : Option H) (batch : List (K × V)) : List (Script K V H) :=
  told.toList.flatMap fun handler =>
    batch.map fun pair => .note (.evicted pair.1 pair.2) (script handler pair.1 pair.2)

/-- One turn of a thread, with what it does of a call of `close`. -/
inductive Turn :
    Cache K V H → Thread K V H → Option Deed → Cache K V H → Thread K V H → Prop where
  /-- A task is over at its end, or at any point because of a fault. -/
  | leave (cache : Cache K V H) (task : Script K V H) (rest : List (Script K V H)) :
      Turn cache { tasks := task :: rest } none cache { tasks := rest }
  | note (cache : Cache K V H) (event : Event K V) (following : Script K V H)
      (rest : List (Script K V H)) :
      Turn cache { tasks := .note event following :: rest } none (cache.record [event])
        { tasks := following :: rest }
  /-- A write, with the handler of new entries still to run. -/
  | write (cache : Cache K V H) (key : K) (value : V) (lifetime : Lifetime) (now : Instant)
      (next : Answer K V → Script K V H) (rest : List (Script K V H)) :
      Turn cache { tasks := .call (.set key value lifetime) next :: rest } none
        (cache.writeAt key value lifetime now).1
        { tasks :=
            (announceInserted script (cache.writeAt key value lifetime now).2 key value).andThen
              (next .done) :: rest }
  | plain (cache : Cache K V H) (clock : Clock) {request : Call K V H}
      (isPlain : request.isPlain = true) {answer : Answer K V}
      (answered : ({ cache with clock }.perform script 0 request).2 = .ok answer)
      (next : Answer K V → Script K V H) (rest : List (Script K V H)) :
      Turn cache { tasks := .call request next :: rest } none
        ({ cache with clock }.perform script 0 request).1 { tasks := next answer :: rest }
  | mark (cache : Cache K V H) (opened : cache.markClosed.2 = true)
      (next : Answer K V → Script K V H) (rest : List (Script K V H)) :
      Turn cache { tasks := .call .close next :: rest } (some .marks) cache.markClosed.1
        { closing := true, tasks := next .done :: rest }
  | refuse (cache : Cache K V H) (already : cache.markClosed.2 = false)
      (next : Answer K V → Script K V H) (rest : List (Script K V H)) :
      Turn cache { tasks := .call .close next :: rest } (some .refuses) cache.markClosed.1
        { tasks := next .done :: rest }
  | purge (cache : Cache K V H) (tasks : List (Script K V H)) :
      Turn cache { closing := true, tasks } (some .purges) cache.purge { tasks }

end

/-- The threads of a cache; `T` names the clients. -/
inductive Who (T : Type) where
  | client (name : T)
  | sweeper
  deriving DecidableEq

structure World (T K V H : Type) where
  cache : Cache K V H
  threads : Who T → Thread K V H := fun _ => {}
  /-- What calls of `close` have done, in order. -/
  history : List (Who T × Deed) := []

namespace World

variable {T K V H : Type} [DecidableEq T] [DecidableEq K]

/-- The world after a turn of a thread. -/
def turned (world : World T K V H) (who : Who T) (cache : Cache K V H) (thread : Thread K V H)
    (deed : Option Deed) : World T K V H where
  cache := cache
  threads := Function.update world.threads who thread
  history := world.history ++ deed.toList.map (who, ·)

/-- One step of the world. -/
inductive Step (script : H → K → V → Script K V H) : World T K V H → World T K V H → Prop where
  /-- A client that has nothing to do begins with any task. -/
  | begins (world : World T K V H) (name : T) (task : Script K V H)
      (idle : world.threads (.client name) = {}) :
      Step script world (world.turned (.client name) world.cache { tasks := [task] } none)
  | turn (world : World T K V H) (who : Who T) {deed : Option Deed} {cache : Cache K V H}
      {thread : Thread K V H}
      (taken : Turn script world.cache (world.threads who) deed cache thread) :
      Step script world (world.turned who cache thread deed)
  | plan (world : World T K V H) (now : Instant) (idle : world.threads .sweeper = {}) :
      Step script world { world with cache := (world.cache.planSleepAt now).1 }
  | hear (world : World T K V H) (idle : world.threads .sweeper = {}) :
      Step script world { world with cache := world.cache.takeWake.1 }
  /-- A pass of the sweeper, with the handler of evicted pairs still to run. -/
  | pass (world : World T K V H) (now : Instant) (idle : world.threads .sweeper = {}) :
      Step script world (world.turned .sweeper (world.cache.sweepAt now).1
        { tasks := announcements script (world.cache.sweepAt now).1.handlers.onEvict
            (world.cache.sweepAt now).2 } none)

/-- Worlds that steps lead to. -/
def Leads (script : H → K → V → Script K V H) : World T K V H → World T K V H → Prop :=
  Relation.ReflTransGen (Step script)

end World

/-! ## Calls that nobody interrupts -/

section

variable {K V H : Type} [DecidableEq K] {script : H → K → V → Script K V H}

/-- A thread takes turns while all others wait. -/
def Alone (script : H → K → V → Script K V H) :
    Cache K V H × List (Script K V H) → Cache K V H × List (Script K V H) → Prop :=
  fun early late => Relation.ReflTransGen
    (fun first second : Cache K V H × Thread K V H =>
      ∃ deed, Turn script first.1 first.2 deed second.1 second.2)
    (early.1, { tasks := early.2 }) (late.1, { tasks := late.2 })

theorem Alone.turn {cache reached : Cache K V H} {tasks rest : List (Script K V H)}
    {deed : Option Deed} (taken : Turn script cache { tasks } deed reached { tasks := rest }) :
    Alone script (cache, tasks) (reached, rest) :=
  .single ⟨deed, taken⟩

theorem Alone.trans {first second third : Cache K V H × List (Script K V H)}
    (early : Alone script first second) (late : Alone script second third) :
    Alone script first third :=
  Relation.ReflTransGen.trans early late

/-- What is left to do after an outcome. -/
def leftAfter {α : Type} (next : α → Script K V H) (rest : List (Script K V H)) :
    Except Fault α → List (Script K V H)
  | .ok answer => next answer :: rest
  | .error _ => rest

omit [DecidableEq K] in
theorem leftAfter_map {α : Type} (next : Answer K V → Script K V H) (rest : List (Script K V H))
    (answer : Answer K V) (outcome : Except Fault α) :
    leftAfter next rest (outcome.map fun _ => answer) =
      leftAfter (fun _ => next answer) rest outcome := by
  cases outcome with
  | ok _ => rfl
  | error _ => rfl

/-- A script runs by turns if its calls do. -/
theorem Script.run_alone (failure : Fault)
    {perform : Call K V H → Cache K V H → Cache K V H × Except Fault (Answer K V)}
    (performed : ∀ request next rest (cache : Cache K V H),
      Alone script (cache, .call request next :: rest)
        ((perform request cache).1, leftAfter next rest (perform request cache).2))
    (task following : Script K V H) (rest : List (Script K V H)) (cache : Cache K V H) :
    Alone script (cache, task.andThen following :: rest)
      ((task.run failure perform cache).1,
        leftAfter (fun _ => following) rest (task.run failure perform cache).2) := by
  induction task generalizing cache with
  | done => exact .refl
  | fail => exact .turn (.leave cache .fail rest)
  | note event later ih =>
      exact (Alone.turn (.note cache event (later.andThen following) rest)).trans
        (ih (cache.record [event]))
  | call request next ih =>
      have called := performed request (fun answer => (next answer).andThen following) rest cache
      unfold run
      cases outcome : perform request cache with
      | mk reached answer =>
          rw [outcome] at called
          cases answer with
          | error fault => exact called
          | ok answer => exact called.trans (ih answer reached)

namespace Cache

/-- A plain call answers in one turn; if it cannot, it changes nothing. -/
theorem perform_plain_alone (depth : Nat) {request : Call K V H} (isPlain : request.isPlain = true)
    (next : Answer K V → Script K V H) (rest : List (Script K V H)) (cache : Cache K V H) :
    Alone script (cache, .call request next :: rest)
      ((cache.perform script depth request).1,
        leftAfter next rest (cache.perform script depth request).2) := by
  have shallow : cache.perform script depth request = cache.perform script 0 request := by
    cases request with
    | set key value lifetime => cases isPlain
    | close => cases isPlain
    | _ => simp only [perform]
  have unchanged (fault : Fault) (failed : (cache.perform script 0 request).2 = .error fault) :
      (cache.perform script 0 request).1 = cache := by
    have read {body : Instant → Cache K V H × Except Fault (Answer K V)}
        (fine : ∀ now, ∃ answer, (body now).2 = .ok answer)
        (failed : (cache.atReading body).2 = .error fault) : (cache.atReading body).1 = cache := by
      unfold atReading at failed ⊢
      cases reading : cache.clock.now with
      | error fault => rfl
      | ok now =>
          rw [reading] at failed
          obtain ⟨answer, answered⟩ := fine now
          cases answered.symm.trans failed
    unfold perform at failed ⊢
    cases request with
    | set key value lifetime => cases isPlain
    | close => cases isPlain
    | get key => exact read (fun now => ⟨_, rfl⟩) failed
    | getLease key => exact read (fun now => ⟨_, rfl⟩) failed
    | touch key => exact read (fun now => ⟨_, rfl⟩) failed
    | keys => exact read (fun now => ⟨_, rfl⟩) failed
    | _ => cases failed
  rw [shallow]
  cases outcome : (cache.perform script 0 request).2 with
  | ok answer => exact .turn (.plain cache cache.clock isPlain outcome next rest)
  | error fault =>
      rw [unchanged fault outcome]
      exact .turn (.leave cache (.call request next) rest)

/-- Closing marks the cache and purges it in two turns, or finds it closed in one. -/
theorem close_alone (next : Answer K V → Script K V H) (rest : List (Script K V H))
    (cache : Cache K V H) :
    Alone script (cache, .call .close next :: rest) (cache.close, next .done :: rest) := by
  rw [close_eq]
  cases closed : cache.store.closed with
  | true =>
      have already : cache.markClosed = (cache, false) := if_pos closed
      have refused : Turn script _ _ _ _ _ :=
        .refuse cache (congrArg Prod.snd already) next rest
      rw [already] at refused
      exact .turn refused
  | false =>
      have opened : cache.markClosed.2 = true := by
        rw [markClosed, if_neg (ne_true_of_eq_false closed)]
      have marked : Turn script _ _ _ _ _ := .mark cache opened next rest
      have purged : Turn script _ _ _ _ _ := .purge cache.markClosed.1 (next .done :: rest)
      rw [if_neg Bool.false_ne_true]
      exact Relation.ReflTransGen.head
        (b := (cache.markClosed.1, { closing := true, tasks := next .done :: rest }))
        ⟨_, marked⟩ (.single ⟨_, purged⟩)

/-- A write is made by turns if the calls of its handler are. -/
theorem set_alone (depth : Nat)
    (nested : ∀ inner, depth = inner + 1 → ∀ request next rest (cache : Cache K V H),
      Alone script (cache, .call request next :: rest)
        ((cache.perform script inner request).1,
          leftAfter next rest (cache.perform script inner request).2))
    (key : K) (value : V) (lifetime : Lifetime) (next : Answer K V → Script K V H)
    (rest : List (Script K V H)) (cache : Cache K V H) :
    Alone script (cache, .call (.set key value lifetime) next :: rest)
      ((cache.perform script depth (.set key value lifetime)).1,
        leftAfter next rest (cache.perform script depth (.set key value lifetime)).2) := by
  unfold perform atReading
  cases reading : cache.clock.now with
  | error fault => exact .turn (.leave cache _ rest)
  | ok now =>
      have wrote : Turn script _ _ _ _ _ := .write cache key value lifetime now next rest
      simp only
      generalize cache.writeAt key value lifetime now = outcome at wrote
      obtain ⟨written, told⟩ := outcome
      cases told with
      | none => exact .turn wrote
      | some handler =>
          cases depth with
          | zero => exact (Alone.turn wrote).trans (.turn (.leave written _ rest))
          | succ inner =>
              have noted : Turn script _ _ _ _ _ :=
                .note written (.inserted key value)
                  ((script handler key value).andThen (next .done)) rest
              have ran := Script.run_alone .insertHandlerFailed (nested inner rfl)
                (script handler key value) (next .done) rest
                (written.record [.inserted key value])
              rw [← leftAfter_map next] at ran
              exact (Alone.turn wrote).trans ((Alone.turn noted).trans ran)

/-- A call that nobody interrupts is made by turns of its thread. -/
theorem perform_alone (script : H → K → V → Script K V H) (depth : Nat) (request : Call K V H)
    (next : Answer K V → Script K V H) (rest : List (Script K V H)) (cache : Cache K V H) :
    Alone script (cache, .call request next :: rest)
      ((cache.perform script depth request).1,
        leftAfter next rest (cache.perform script depth request).2) := by
  induction depth generalizing request next rest cache with
  | zero =>
      cases request with
      | set key value lifetime =>
          exact set_alone 0 (fun _ absent => nomatch absent) key value lifetime next rest cache
      | close =>
          unfold perform
          exact close_alone next rest cache
      | _ => exact perform_plain_alone 0 rfl next rest cache
  | succ inner ih =>
      cases request with
      | set key value lifetime =>
          refine set_alone (inner + 1) ?_ key value lifetime next rest cache
          rintro _ ⟨⟩
          exact ih
      | close =>
          unfold perform
          exact close_alone next rest cache
      | _ => exact perform_plain_alone (inner + 1) rfl next rest cache

/-- Telling a handler of a batch is a matter of turns, a task for each pair. -/
theorem announceEvicted_alone (script : H → K → V → Script K V H) (depth : Nat) (handler : H)
    (batch : List (K × V)) (cache : Cache K V H) :
    Alone script (cache, announcements script (some handler) batch)
      (cache.announceEvicted script depth handler batch, []) := by
  induction batch generalizing cache with
  | nil => exact .refl
  | cons pair rest ih =>
      have noted : Turn script _ _ _ _ _ := .note cache (.evicted pair.1 pair.2)
        (script handler pair.1 pair.2) (announcements script (some handler) rest)
      have ran := Script.run_alone .evictHandlerFailed (perform_alone script depth)
        (script handler pair.1 pair.2) .done (announcements script (some handler) rest)
        (cache.record [.evicted pair.1 pair.2])
      rw [Script.andThen_done] at ran
      refine (Alone.turn noted).trans (ran.trans (Alone.trans ?_ (ih _)))
      cases ((script handler pair.1 pair.2).run .evictHandlerFailed (perform script depth)
        (cache.record [.evicted pair.1 pair.2])).2 with
      | error fault => exact .refl
      | ok _ => exact .turn (.leave _ .done _)

end Cache

end

namespace World

variable {T K V H : Type} [DecidableEq T] [DecidableEq K] {script : H → K → V → Script K V H}
  {world : World T K V H}

/-- What a thread does alone is a sequence of steps of the world. -/
theorem leads_of_alone {who : Who T} {tasks rest : List (Script K V H)} {reached : Cache K V H}
    (alone : Alone script (world.cache, tasks) (reached, rest))
    (ready : world.threads who = { tasks }) :
    ∃ late, Leads script world
      { cache := reached
        threads := Function.update world.threads who { tasks := rest }
        history := world.history ++ late } := by
  have led (state : Cache K V H × Thread K V H)
      (turns : Relation.ReflTransGen
        (fun first second : Cache K V H × Thread K V H =>
          ∃ deed, Turn script first.1 first.2 deed second.1 second.2)
        (world.cache, world.threads who) state) :
      ∃ late, Leads script world
        { cache := state.1
          threads := Function.update world.threads who state.2
          history := world.history ++ late } := by
    induction turns with
    | refl =>
        refine ⟨[], ?_⟩
        rw [Function.update_eq_self, List.append_nil]
        exact .refl
    | @tail middle final _ taken ih =>
        obtain ⟨late, leads⟩ := ih
        obtain ⟨deed, taken⟩ := taken
        have there : Turn script middle.1 (Function.update world.threads who middle.2 who) deed
            final.1 final.2 := by
          rw [Function.update_self]
          exact taken
        have again : Function.update world.threads who final.2 =
            Function.update (Function.update world.threads who middle.2) who final.2 :=
          (Function.update_idem _ _ _).symm
        refine ⟨late ++ deed.toList.map (who, ·), leads.tail ?_⟩
        rw [again, ← List.append_assoc]
        exact Step.turn _ who there
  rw [Alone, ← ready] at alone
  exact led _ alone

/-- A thread that takes up tasks and works them off alone leaves the world to the others. -/
theorem leads_of_tasks {who : Who T} (idle : world.threads who = {}) {first reached : Cache K V H}
    {tasks : List (Script K V H)}
    (taken : Step script world (world.turned who first { tasks } none))
    (alone : Alone script (first, tasks) (reached, [])) :
    ∃ late, Leads script world
      { world with cache := reached, history := world.history ++ late } := by
  have begun : (world.turned who first { tasks } none).threads who = { tasks } :=
    Function.update_self who _ world.threads
  have settled : Function.update (Function.update world.threads who { tasks }) who {} =
      world.threads := by
    rw [Function.update_idem, ← idle, Function.update_eq_self]
  obtain ⟨late, leads⟩ := leads_of_alone
    (show Alone script ((world.turned who first { tasks } none).cache, tasks) _ from alone) begun
  refine ⟨late, .head taken ?_⟩
  change Leads script _ _
  simpa only [turned, settled, Option.toList_none, List.map_nil, List.append_nil] using leads

/-- A client makes a call by steps, as the model of calls has it. -/
theorem leads_perform (depth : Nat) {name : T} (idle : world.threads (.client name) = {})
    (request : Call K V H) :
    ∃ late, Leads script world
      { world with
        cache := (world.cache.perform script depth request).1
        history := world.history ++ late } := by
  have called := Cache.perform_alone script depth request (fun _ => .done) [] world.cache
  refine leads_of_tasks idle (.begins world name (.call request fun _ => .done) idle)
    (called.trans ?_)
  cases (world.cache.perform script depth request).2 with
  | error fault => exact .refl
  | ok answer => exact .turn (.leave _ .done [])

/-- The sweeper makes a pass by steps, as the model of passes has it. -/
theorem leads_sweep (depth : Nat) (idle : world.threads .sweeper = {}) :
    ∃ late, Leads script world
      { world with
        cache := (world.cache.sweep script depth).1
        history := world.history ++ late } := by
  unfold Cache.sweep Cache.atReading
  cases world.cache.clock.now with
  | error fault =>
      refine ⟨[], ?_⟩
      rw [List.append_nil]
      exact .refl
  | ok now =>
      refine leads_of_tasks idle (.pass world now idle) ?_
      simp only
      cases (world.cache.sweepAt now).1.handlers.onEvict with
      | none => exact .refl
      | some handler =>
          exact Cache.announceEvicted_alone script depth handler _ _

end World

end ExpiringCache
